import RelPipe.Regex.Basic
import RelPipe.Regex.Options

/-!
What a backslash and the characters after it stand for in a pattern.
-/

namespace RelPipe.Regex

set_option autoImplicit false

inductive Escape where
  | literal (c : Char)
  | set (s : CharSet)
  | look (l : Look)

namespace Escape

def asciiSet? : String → Option CharSet
  | "alnum" => some (.ofRanges [('0', '9'), ('A', 'Z'), ('a', 'z')])
  | "alpha" => some (.ofRanges [('A', 'Z'), ('a', 'z')])
  | "ascii" => some (.range '\x00' '\x7f')
  | "blank" => some (.ofRanges [('\t', '\t'), (' ', ' ')])
  | "cntrl" => some (.ofRanges [('\x00', '\x1f'), ('\x7f', '\x7f')])
  | "digit" => some (.range '0' '9')
  | "graph" => some (.range '!' '~')
  | "lower" => some (.range 'a' 'z')
  | "print" => some (.range ' ' '~')
  | "punct" => some (.ofRanges [('!', '/'), (':', '@'), ('[', '\x60'), ('\x7b', '~')])
  | "space" => some (.ofRanges [('\t', '\r'), (' ', ' ')])
  | "upper" => some (.range 'A' 'Z')
  | "word" => some asciiWord
  | "xdigit" => some (.ofRanges [('0', '9'), ('A', 'F'), ('a', 'f')])
  | _ => none

def digit (o : Options) : CharSet := if o.unicode then Unicode.digit else .range '0' '9'

def space (o : Options) : CharSet :=
  if o.unicode then Unicode.space else .ofRanges [('\t', '\r'), (' ', ' ')]

def word (o : Options) : CharSet := if o.unicode then Unicode.word else asciiWord

def isHexDigit (c : Char) : Bool := (Text.Hex.digit? c).isSome

def codePoint? (digits : List Char) : Option Char := do
  let n ← Text.Hex.natural? digits
  if digits.isEmpty then none else if n.isValidChar then some (Char.ofNat n) else none

/-- A code point in braces or as a fixed number of digits. Two digits stand for a byte, which
without Unicode is a character only in ASCII. -/
def hex? (o : Options) (width : Nat) (cs : List Char) : Option (Escape × List Char) :=
  match o.skip cs with
  | '\x7b' :: cs =>
    match o.gather isHexDigit cs.length cs with
    | (digits, '\x7d' :: rest) => (codePoint? digits).map fun c => (literal c, o.skip rest)
    | _ => none
  | cs => do
    let (digits, rest) := o.gather isHexDigit width cs
    let c ← codePoint? digits
    if digits.length = width && (width ≠ 2 || o.admits c) then some (literal c, rest) else none

def propertySet? (description : List Char) : Option CharSet :=
  match Text.cutAround? ['!', '='] description with
  | some (property, value) => Unicode.setOfValue? property value
  | none =>
    match Text.cutAt? ':' description with
    | some (property, value) => Unicode.setOfValue? property value
    | none =>
      match Text.cutAt? '=' description with
      | some (property, value) => Unicode.setOfValue? property value
      | none => Unicode.set? description

def property? (o : Options) (negate : Bool) (cs : List Char) : Option (Escape × List Char) := do
  let (description, rest) ←
    match o.skip cs with
    | [] => none
    | '\x7b' :: cs =>
      match o.gather (· ≠ '\x7d') cs.length cs with
      | (description, _ :: rest) => some (description, rest)
      | (_, []) => none
    | c :: cs => some ([c], cs)
  let s ← propertySet? description
  if o.unicode then
    let s ← o.negated? negate (o.closed s)
    some (set s, rest)
  else none

def isEdgeCharacter (c : Char) : Bool := c.isAlpha || c = '-'

def edge? : String → Option WordEdge
  | "start" => some .start
  | "end" => some .finish
  | "start-half" => some .startHalf
  | "end-half" => some .finishHalf
  | _ => none

/-- The edge of a word after its letter. A brace that does not begin the description of an edge
belongs to a repetition. -/
def boundary? (o : Options) (cs : List Char) : Option (Escape × List Char) :=
  let plain : Option (Escape × List Char) := some (look (.word .boundary o.unicode), cs)
  match cs with
  | '\x7b' :: rest =>
    match o.skip rest with
    | [] => none
    | c :: rest =>
      if isEdgeCharacter c then
        match o.gather isEdgeCharacter (c :: rest).length (c :: rest) with
        | (name, '\x7d' :: rest) =>
          (edge? (String.ofList name)).map fun e => (look (.word e o.unicode), rest)
        | _ => none
      else plain
  | _ => plain

/-- The punctuation that may be escaped without need. -/
def isEscapable (c : Char) : Bool :=
  c.toNat < 0x80 && !c.isAlphanum && c ≠ '<' && c ≠ '>'

end Escape

open Escape in
def escape? (o : Options) : List Char → Option (Escape × List Char)
  | [] => none
  | c :: cs =>
    let negatable (negate : Bool) (s : CharSet) : Option (Escape × List Char) :=
      (o.negated? negate s).map fun s => (.set s, cs)
    let edge (e : WordEdge) : Option (Escape × List Char) :=
      some (.look (.word e o.unicode), cs)
    match c with
    | 'x' => hex? o 2 cs
    | 'u' => hex? o 4 cs
    | 'U' => hex? o 8 cs
    | 'p' => property? o false cs
    | 'P' => property? o true cs
    | 'd' => negatable false (digit o)
    | 's' => negatable false (space o)
    | 'w' => negatable false (word o)
    | 'D' => negatable true (digit o)
    | 'S' => negatable true (space o)
    | 'W' => negatable true (word o)
    | 'a' => some (.literal '\x07', cs)
    | 'f' => some (.literal '\x0c', cs)
    | 't' => some (.literal '\t', cs)
    | 'n' => some (.literal '\n', cs)
    | 'r' => some (.literal '\r', cs)
    | 'v' => some (.literal '\x0b', cs)
    | 'A' => some (.look .textStart, cs)
    | 'z' => some (.look .textEnd, cs)
    | 'b' => boundary? o cs
    | 'B' => edge .interior
    | '<' => edge .start
    | '>' => edge .finish
    | c => if isEscapable c then some (.literal c, cs) else none

end RelPipe.Regex
