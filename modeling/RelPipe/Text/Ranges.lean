/-!
Compact tables over code points: a set is the ascending list of the code points at which membership
changes, and a case mapping is a list of runs of equally spaced sources.
-/

namespace RelPipe.Text

set_option autoImplicit false

/-- Whether `n` lies in the set whose membership changes at each of the ascending `bounds`. -/
def inside (n : Nat) : (bounds : List Nat) → Bool
  | [] => false
  | b :: bs => if n < b then false else !inside n bs

/-- The sources `first`, `first + step`, …, `last` and the image of the first of them; the images
of the others keep the distance of their sources. -/
structure CaseRun where
  first : Nat
  last : Nat
  step : Nat
  image : Nat

namespace CaseRun

def contains (run : CaseRun) (n : Nat) : Bool :=
  run.first ≤ n && n ≤ run.last && (n - run.first) % run.step == 0

def apply (run : CaseRun) (n : Nat) : Nat := n - run.first + run.image

def pairs (run : CaseRun) : List (Nat × Nat) :=
  (List.range ((run.last - run.first) / run.step + 1)).map fun i =>
    (run.first + run.step * i, run.image + run.step * i)

end CaseRun

/-- The image of `n` under a mapping given by runs; code points outside every run stay. -/
def mapCode (runs : List CaseRun) (n : Nat) : Nat :=
  match runs.find? (·.contains n) with
  | some run => run.apply n
  | none => n

end RelPipe.Text
