import RelPipe.Regex.Basic
import Std.Data.HashMap

/-!
The memory that an automaton for a regular expression takes, in bytes, once its counted repetitions
are written out. Characters are read byte by byte in UTF-8, so a set of characters takes as many
states as its byte sequences need. Expressions whose automaton would be too large are refused.
-/

namespace RelPipe.Regex

set_option autoImplicit false

abbrev ByteRange := Nat × Nat

/-- The sequences of byte ranges for the code points from `low` to `high`, all of which have one
leading byte, counted from `lead`, and `following` other bytes. -/
def byteSequences (lead : Nat) : (following low high : Nat) → List (List ByteRange)
  | 0, low, high => [[(lead + low, lead + high)]]
  | following + 1, low, high =>
    let block := Nat.pow 64 (following + 1)
    let first := low / block
    let last := high / block
    let within (n low high : Nat) : List (List ByteRange) :=
      (byteSequences 0x80 following low high).map ((lead + n, lead + n) :: ·)
    if first = last then
      within first (low % block) (high % block)
    else
      let start := if low % block = 0 then [] else within first (low % block) (block - 1)
      let finish := if high % block = block - 1 then [] else within last 0 (high % block)
      let firstFull := if low % block = 0 then first else first + 1
      let lastFull := if high % block = block - 1 then last else last - 1
      let middle : List (List ByteRange) :=
        if firstFull ≤ lastFull then
          [(lead + firstFull, lead + lastFull) :: List.replicate (following + 1) (0x80, 0xbf)]
        else []
      start ++ middle ++ finish

/-- The code points with one, two, three and four bytes, apart from surrogates, with their leading
byte for zero and the number of other bytes. -/
def byteLengths : List (Nat × Nat × Nat × Nat) :=
  [(0, 0x7f, 0, 0), (0x80, 0x7ff, 0xc0, 1), (0x800, 0xd7ff, 0xe0, 2), (0xe000, 0xffff, 0xe0, 2),
   (0x10000, 0x10ffff, 0xf0, 3)]

def runSequences (low high : Nat) : List (List ByteRange) :=
  byteLengths.flatMap fun (first, last, lead, following) =>
    if max low first ≤ min high last then
      byteSequences lead following (max low first) (min high last)
    else []

def setSequences (s : CharSet) : List (List ByteRange) :=
  s.runs.flatMap fun r => runSequences r.1 r.2

def stateSize : Nat := 32

/-- What a state takes more for each byte range that it tells apart. -/
def rangeSize : Nat := 8

/-- What a state takes more for each state that it branches to. -/
def branchSize : Nat := 4

/-- The states for sets of byte sequences: the number of each, and the size of all. A state is known
by its byte ranges and the states they lead to. -/
structure States where
  numbers : Std.HashMap (List (ByteRange × Nat)) Nat
  size : Nat

def groupByHead (sequences : List (List ByteRange)) : List (ByteRange × List (List ByteRange)) :=
  sequences.foldr (fun s groups =>
    match s, groups with
    | [], groups => groups
    | r :: rest, [] => [(r, [rest])]
    | r :: rest, (q, tails) :: groups =>
      if r = q then (q, (rest :: tails)) :: groups else (r, [rest]) :: (q, tails) :: groups) []

/-- Adds the state for ascending sequences of at most `length` ranges, and those it leads to, unless
they are there. The state after the last byte is number zero. -/
def States.add : (length : Nat) → List (List ByteRange) → States → Nat × States
  | 0, _, states => (0, states)
  | length + 1, sequences, states =>
    if sequences.all List.isEmpty then (0, states)
    else
      let (transitions, states) := (groupByHead sequences).foldl (fun (done, states) (r, tails) =>
        let (next, states) := States.add length tails states
        ((r, next) :: done, states)) (([] : List (ByteRange × Nat)), states)
      match states.numbers[transitions]? with
      | some n => (n, states)
      | none =>
        let n := states.numbers.size + 1
        (n, ⟨states.numbers.insert transitions n,
          states.size + stateSize + rangeSize * transitions.length⟩)

/-- The number of ranges in which a sequence goes beyond what it shares with the one before. -/
def freshLength : List ByteRange → List ByteRange → Nat
  | r :: rs, q :: qs => if r = q then freshLength rs qs else rs.length + 1
  | rs, _ => rs.length

def freshLengths (previous : List ByteRange) : List (List ByteRange) → Nat
  | [] => 0
  | s :: rest => freshLength s previous + freshLengths s rest

inductive Direction where
  | forward | backward
deriving DecidableEq

def byteLength (n : Nat) : Nat :=
  if n < 0x80 then 1 else if n < 0x800 then 2 else if n < 0x10000 then 3 else 4

/-- Forward, states with the same continuations are shared; backward, only common beginnings are. -/
def setFootprint (d : Direction) (s : CharSet) : Nat :=
  match s.only? with
  | some n => stateSize * byteLength n
  | none =>
    if s.bounds.isEmpty then stateSize
    else if s.isAscii then 2 * stateSize + rangeSize * s.runs.length
    else
      let sequences := setSequences s
      match d with
      | .forward => stateSize + (States.add 4 sequences ⟨∅, 0⟩).2.size
      | .backward =>
        2 * stateSize + stateSize * freshLengths [] sequences + branchSize * sequences.length

/-- The size of an expression that stands alone, and of one that is among several alternatives,
where nested alternatives are the same as more of them. -/
structure Footprint where
  alone : Nat
  asBranch : Nat

def Footprint.ofSize (n : Nat) : Footprint := ⟨n, n + branchSize⟩

def repetitionSize (n : Nat) (takesCharacter : Bool) (least : Nat) (most : Option Nat) : Nat :=
  let loop := stateSize + 2 * branchSize
  match least, most with
  | 0, none => if takesCharacter then n + loop else n + loop + loop + stateSize
  | least, none => least * n + loop
  | 0, some 1 => n + loop + stateSize
  | least, some most =>
    if least = most then least * n
    else max stateSize (least * n) + stateSize + (most - least) * (n + loop)

def footprint (d : Direction) : Regex → Footprint
  | empty | look _ => .ofSize stateSize
  | one s => .ofSize (setFootprint d s)
  | seq a b => .ofSize ((footprint d a).alone + (footprint d b).alone)
  | alt a b =>
    let branches := (footprint d a).asBranch + (footprint d b).asBranch
    ⟨2 * stateSize + branches, branches⟩
  | rep a least most => .ofSize (repetitionSize (footprint d a).alone a.takesCharacter least most)
  | group a =>
    .ofSize ((footprint d a).alone + match d with
      | .forward => 2 * stateSize
      | .backward => 0)

/-- What every automaton takes: the loop that looks for a start, the end and, forward, the limits of
the match. -/
def frameSize : Direction → Nat
  | .forward => 7 * stateSize - stateSize / 2
  | .backward => 5 * stateSize - stateSize / 2

def maxFootprint : Nat := 10 * 0x100000

def fits (r : Regex) (d : Direction) : Bool :=
  frameSize d + (footprint d r).alone ≤ maxFootprint

end RelPipe.Regex
