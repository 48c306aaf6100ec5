import RelPipe.Regex.Basic
import Std.Data.HashSet

/-!
The search for a regular expression in a text. What is left of an expression after a character is
one of finitely many lists of expressions, so a search follows all of them from place to place and
never goes back.
-/

namespace RelPipe.Regex

set_option autoImplicit false

/-- Whether the expression matches the empty text at a place. -/
def nullable (p : Place) : Regex → Bool
  | empty => true
  | one _ => false
  | look l => l.holds p
  | seq a b => nullable p a && nullable p b
  | alt a b => nullable p a || nullable p b
  | rep a least _ => least == 0 || nullable p a
  | group a => nullable p a

/-- The lists of expressions, one of which must match what follows a character for the expression to
match from the place before that character. In a repetition, rounds that match the empty text can
stand for all that are still owed. -/
def derive (p : Place) (c : Char) : Regex → List (List Regex)
  | empty | look _ => []
  | one s => if s.contains c then [[]] else []
  | seq a b => (derive p c a).map (· ++ [b]) ++ if nullable p a then derive p c b else []
  | alt a b => derive p c a ++ derive p c b
  | rep a least most =>
    if most = some 0 then []
    else
      let owed := if nullable p a then 0 else least - 1
      (derive p c a).map (· ++ [rep a owed (most.map (· - 1))])
  | group a => derive p c a

def allNullable (p : Place) (rs : List Regex) : Bool := rs.all (nullable p)

def deriveAll (p : Place) (c : Char) : List Regex → List (List Regex)
  | [] => []
  | r :: rest =>
    (derive p c r).map (· ++ rest) ++ if nullable p r then deriveAll p c rest else []

/-- Takes all lists of expressions past a character. Each of those that result is kept once. -/
def advance (p : Place) (c : Char) (threads : List (List Regex)) : List (List Regex) :=
  (Std.HashSet.ofList (threads.flatMap (deriveAll p c))).toList

/-- Whether the expression occurs in the text from here on, or one of the lists of expressions that
are under way comes to an end. -/
def occursFrom (r : Regex) (before : Option Char) (threads : List (List Regex)) :
    List Char → Bool
  | [] => (([r] :: threads).any (allNullable ⟨before, none⟩))
  | c :: cs =>
    let p : Place := ⟨before, some c⟩
    ([r] :: threads).any (allNullable p)
      || occursFrom r (some c) (advance p c ([r] :: threads)) cs

def occursIn (r : Regex) (text : List Char) : Bool := occursFrom r none [] text

theorem mem_advance {p : Place} {c : Char} {threads : List (List Regex)} {u : List Regex} :
    u ∈ advance p c threads ↔ ∃ t ∈ threads, u ∈ deriveAll p c t := by
  simp [advance, Std.HashSet.mem_ofList]

end RelPipe.Regex
