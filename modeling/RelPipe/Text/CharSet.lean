import RelPipe.Text.Ranges

/-!
Sets of characters. A set is the ascending list of the code points at which membership changes, so
membership is a matter of parity, a complement moves one bound and every operation on two sets is
one merge.
-/

namespace RelPipe

set_option autoImplicit false

structure CharSet where
  bounds : List Nat
deriving DecidableEq

namespace CharSet

/-- Sets mostly differ in their first bounds. -/
instance : Hashable CharSet := ⟨fun s => hash (s.bounds.take 4)⟩

def contains (s : CharSet) (c : Char) : Bool := Text.inside c.toNat s.bounds

def none : CharSet := ⟨[]⟩

def all : CharSet := ⟨[0]⟩

def range (low high : Char) : CharSet := ⟨[low.toNat, high.toNat + 1]⟩

def single (c : Char) : CharSet := range c c

def complement (s : CharSet) : CharSet :=
  match s.bounds with
  | 0 :: bounds => ⟨bounds⟩
  | bounds => ⟨0 :: bounds⟩

/-- The bounds at which the combination of two memberships changes, where `a` and `b` are the
memberships before the bounds that follow. -/
def mergeBounds (f : Bool → Bool → Bool) (a b : Bool) : List Nat → List Nat → List Nat
  | [], [] => []
  | x :: xs, [] =>
    let rest := mergeBounds f (!a) b xs []
    if f a b == f (!a) b then rest else x :: rest
  | [], y :: ys =>
    let rest := mergeBounds f a (!b) [] ys
    if f a b == f a (!b) then rest else y :: rest
  | x :: xs, y :: ys =>
    if x < y then
      let rest := mergeBounds f (!a) b xs (y :: ys)
      if f a b == f (!a) b then rest else x :: rest
    else if y < x then
      let rest := mergeBounds f a (!b) (x :: xs) ys
      if f a b == f a (!b) then rest else y :: rest
    else
      let rest := mergeBounds f (!a) (!b) xs ys
      if f a b == f (!a) (!b) then rest else x :: rest
termination_by xs ys => xs.length + ys.length

def combine (f : Bool → Bool → Bool) (s t : CharSet) : CharSet :=
  ⟨mergeBounds f false false s.bounds t.bounds⟩

def union (s t : CharSet) : CharSet := combine (· || ·) s t

def intersection (s t : CharSet) : CharSet := combine (· && ·) s t

def difference (s t : CharSet) : CharSet := combine (fun a b => a && !b) s t

def symmetricDifference (s t : CharSet) : CharSet := combine (· != ·) s t

def unions (sets : List CharSet) : CharSet := sets.foldl union none

def ofRanges (ranges : List (Char × Char)) : CharSet :=
  unions (ranges.map fun r => range r.1 r.2)

def ofPoints (points : List Nat) : CharSet :=
  ⟨points.foldr (fun n bounds =>
    match bounds with
    | b :: rest => if b = n + 1 then n :: rest else if b = n then bounds else n :: (n + 1) :: bounds
    | [] => [n, n + 1]) []⟩

def inLine : CharSet := complement (single '\n')

def only? (s : CharSet) : Option Nat :=
  match s.bounds with
  | [low, high] => if high = low + 1 then some low else Option.none
  | _ => Option.none

/-- The first and the last code point of each run of members. -/
def runsFrom : List Nat → List (Nat × Nat)
  | low :: high :: bounds => (low, high - 1) :: runsFrom bounds
  | [low] => [(low, 0x10ffff)]
  | [] => []

def runs (s : CharSet) : List (Nat × Nat) := runsFrom s.bounds

def isAscii (s : CharSet) : Bool := s.runs.all fun r => decide (r.2 < 0x80)

theorem contains_complement (s : CharSet) (c : Char) :
    s.complement.contains c = !s.contains c := by
  unfold complement contains
  split
  · rename_i bounds h
    simp [h, Text.inside]
  · simp [Text.inside]

theorem contains_single (c d : Char) : (single c).contains d = decide (d = c) := by
  have h : d = c ↔ d.toNat = c.toNat := ⟨congrArg _, Char.toNat_inj.mp⟩
  simp only [contains, single, range, Text.inside, h]
  split
  · simp; omega
  · split <;> simp <;> omega

theorem contains_inLine (c : Char) : inLine.contains c = decide (c ≠ '\n') := by
  simp [inLine, contains_complement, contains_single]

end CharSet

end RelPipe
