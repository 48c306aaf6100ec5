/-!
Cutting, trimming and comparing texts. The functions work on lists of characters, so that
statements about them are inductions; `String` versions stand beside those that other modules use
most.
-/

namespace RelPipe.Text

set_option autoImplicit false

/-- The pieces of a text between the occurrences of `sep`. A text without one is its only piece. -/
def pieces (sep : Char) : List Char → List (List Char)
  | [] => [[]]
  | c :: cs =>
    if c = sep then
      [] :: pieces sep cs
    else
      match pieces sep cs with
      | [] => [[c]]
      | piece :: rest => (c :: piece) :: rest

def cutAt? (sep : Char) : List Char → Option (List Char × List Char)
  | [] => none
  | c :: cs =>
    if c = sep then
      some ([], cs)
    else
      (cutAt? sep cs).map fun (head, rest) => (c :: head, rest)

def cutAround? (sep : List Char) : List Char → Option (List Char × List Char)
  | [] => none
  | c :: cs =>
    if sep.isPrefixOf (c :: cs) then
      some ([], (c :: cs).drop sep.length)
    else
      (cutAround? sep cs).map fun (head, rest) => (c :: head, rest)

/-- The text before the first `sep`, which is the whole text when there is none. -/
def before (sep : Char) (cs : List Char) : List Char := cs.takeWhile (· ≠ sep)

def trimEnd (drop : Char → Bool) (cs : List Char) : List Char :=
  (cs.reverse.dropWhile drop).reverse

def trimBoth (drop : Char → Bool) (cs : List Char) : List Char :=
  trimEnd drop (cs.dropWhile drop)

def afterStart? (start : List Char) (cs : List Char) : Option (List Char) :=
  if start.isPrefixOf cs then some (cs.drop start.length) else none

def dollar (s : String) : Bool := s.toList.head? == some '$'

def doubleDollar (s : String) : Bool := ['$', '$'].isPrefixOf s.toList

def equalIgnoringAsciiCase (a b : List Char) : Bool := a.map Char.toLower == b.map Char.toLower

def join (separator : String) : List String → String
  | [] => ""
  | [s] => s
  | s :: rest => s ++ separator ++ join separator rest

def lexCompare {α : Type} (order : α → α → Ordering) : List α → List α → Ordering
  | [], [] => .eq
  | [], _ :: _ => .lt
  | _ :: _, [] => .gt
  | a :: as, b :: bs => (order a b).then (lexCompare order as bs)

/-- Texts are ordered by code point. -/
def compare (a b : String) : Ordering :=
  lexCompare (fun x y => Ord.compare x.toNat y.toNat) a.toList b.toList

theorem pieces_ne_nil (sep : Char) (cs : List Char) : pieces sep cs ≠ [] := by
  induction cs with
  | nil => simp [pieces]
  | cons c cs ih =>
    unfold pieces
    split
    · simp
    · split <;> simp

theorem cutAt?_of_not_mem {sep : Char} {cs : List Char} (h : sep ∉ cs) : cutAt? sep cs = none := by
  induction cs with
  | nil => rfl
  | cons c cs ih =>
    rw [List.mem_cons, not_or] at h
    rw [cutAt?, if_neg (Ne.symm h.1), ih h.2, Option.map_none]

theorem cutAt?_append {sep : Char} {head : List Char} (h : sep ∉ head) (rest : List Char) :
    cutAt? sep (head ++ sep :: rest) = some (head, rest) := by
  induction head with
  | nil => exact if_pos rfl
  | cons c head ih =>
    rw [List.mem_cons, not_or] at h
    rw [List.cons_append, cutAt?, if_neg (Ne.symm h.1), ih h.2, Option.map_some]

theorem eq_append_of_cutAt? {sep : Char} {cs head rest : List Char}
    (h : cutAt? sep cs = some (head, rest)) : cs = head ++ sep :: rest := by
  induction cs generalizing head with
  | nil => cases h
  | cons c cs ih =>
    rw [cutAt?] at h
    split at h
    · rename_i hSep
      cases h
      rw [hSep, List.nil_append]
    · obtain ⟨⟨inner, rest⟩, hInner, hCut⟩ := Option.map_eq_some_iff.mp h
      cases hCut
      rw [ih hInner, List.cons_append]

end RelPipe.Text
