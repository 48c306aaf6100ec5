import Mathlib.Data.List.DropRight
import Mathlib.Data.List.Infix
import RelPipe.Text.Basic

/-!
What trimming leaves. It is a part of the text that does not begin or end with a character to drop.
A text that is not dropped as a whole loses the same characters at its start and at its end whether
it is trimmed at one end or at both.
-/

namespace RelPipe.Text

set_option autoImplicit false

variable {drop : Char → Bool} {cs : List Char}

theorem trimEnd_eq_rdropWhile (drop : Char → Bool) (cs : List Char) :
    trimEnd drop cs = cs.rdropWhile drop := rfl

theorem trimBoth_infix (drop : Char → Bool) (cs : List Char) : trimBoth drop cs <:+: cs :=
  (List.rdropWhile_prefix drop _).isInfix.trans (List.dropWhile_suffix drop).isInfix

theorem rdropWhile_cons (c : Char) (h : ∃ d ∈ cs, drop d = false) :
    (c :: cs).rdropWhile drop = c :: cs.rdropWhile drop := by
  obtain ⟨d, hd, hKept⟩ := h
  have hSome : (cs.reverse.dropWhile drop).isEmpty = false := by
    rw [List.isEmpty_eq_false_iff, Ne, List.dropWhile_eq_nil_iff]
    intro hAll
    rw [hAll d (List.mem_reverse.mpr hd)] at hKept
    cases hKept
  rw [List.rdropWhile, List.reverse_cons, List.dropWhile_append, hSome]
  simp [List.rdropWhile]

theorem rdropWhile_append (start : List Char) (h : ∃ d ∈ cs, drop d = false) :
    (start ++ cs).rdropWhile drop = start ++ cs.rdropWhile drop := by
  induction start with
  | nil => rfl
  | cons c start ih =>
    obtain ⟨d, hd, hKept⟩ := h
    have hRest : ∃ d ∈ start ++ cs, drop d = false := ⟨d, List.mem_append_right _ hd, hKept⟩
    rw [List.cons_append, rdropWhile_cons c hRest, ih, List.cons_append]

theorem length_trimBoth (drop : Char → Bool) {cs : List Char} (h : ∃ d ∈ cs, drop d = false) :
    (trimBoth drop cs).length + cs.length =
      (cs.rdropWhile drop).length + (cs.dropWhile drop).length := by
  induction cs with
  | nil =>
    obtain ⟨d, hd, -⟩ := h
    cases hd
  | cons c cs ih =>
    cases hc : drop c with
    | false => rw [trimBoth, List.dropWhile_cons_of_neg (by simp [hc]), trimEnd_eq_rdropWhile]
    | true =>
      have hRest : ∃ d ∈ cs, drop d = false := by simpa [hc] using h
      have hShorter := ih hRest
      rw [trimBoth, List.dropWhile_cons_of_pos hc, ← trimBoth, rdropWhile_cons c hRest]
      simp only [List.length_cons]
      omega

theorem trimBoth_of_ends (hHead : ∀ c ∈ cs.head?, drop c = false)
    (hLast : ∀ c ∈ cs.getLast?, drop c = false) : trimBoth drop cs = cs := by
  have hStart : cs.dropWhile drop = cs := by
    cases cs with
    | nil => rfl
    | cons c cs => exact List.dropWhile_cons_of_neg (Bool.eq_false_iff.mp (hHead c rfl))
  have hEnd : cs.rdropWhile drop = cs := List.rdropWhile_eq_self_iff.mpr fun hSome =>
    Bool.eq_false_iff.mp (hLast _ (List.getLast?_eq_some_getLast hSome))
  rw [trimBoth, hStart, trimEnd_eq_rdropWhile, hEnd]

theorem trimBoth_of_none (h : ∀ d ∈ cs, drop d = false) : trimBoth drop cs = cs :=
  trimBoth_of_ends (fun c hc => h c (List.mem_of_head? hc))
    (fun c hc => h c (List.mem_of_getLast? hc))

theorem trimBoth_of_all (drop : Char → Bool) {cs : List Char} (h : ∀ d ∈ cs, drop d = true) :
    trimBoth drop cs = [] ∧ cs.dropWhile drop = [] := by
  have hNone : cs.dropWhile drop = [] := List.dropWhile_eq_nil_iff.mpr h
  exact ⟨by rw [trimBoth, hNone]; rfl, hNone⟩

theorem trimBoth_eq_nil_iff : trimBoth drop cs = [] ↔ ∀ c ∈ cs, drop c = true := by
  constructor
  · intro h
    rw [trimBoth, trimEnd_eq_rdropWhile, List.rdropWhile_eq_nil_iff] at h
    refine List.dropWhile_eq_nil_iff.mp ?_
    by_contra hSome
    have hHead := List.head_dropWhile_not drop hSome
    rw [h _ (List.head_mem hSome)] at hHead
    cases hHead
  · exact fun h => (trimBoth_of_all drop h).1

theorem head?_trimBoth_ne (drop : Char → Bool) {c : Char} (h : drop c = true) (cs : List Char) :
    (trimBoth drop cs).head? ≠ some c := by
  intro hHead
  obtain ⟨rest, hRest⟩ := List.head?_eq_some_iff.mp hHead
  obtain ⟨dropped, hDropped⟩ := List.rdropWhile_prefix drop (cs.dropWhile drop)
  rw [← trimEnd_eq_rdropWhile, ← trimBoth, hRest] at hDropped
  have hFirst := List.head?_dropWhile_not drop cs
  rw [← hDropped, List.cons_append, List.head?_cons] at hFirst
  exact absurd h (Bool.eq_false_iff.mp hFirst)

theorem getLast?_trimBoth_ne (drop : Char → Bool) {c : Char} (h : drop c = true) (cs : List Char) :
    (trimBoth drop cs).getLast? ≠ some c := by
  intro hLast
  have hSome : trimBoth drop cs ≠ [] := by
    intro hNil
    rw [hNil] at hLast
    cases hLast
  have hKept := List.rdropWhile_last_not drop (cs.dropWhile drop) hSome
  exact hKept ((congrArg drop (List.getLast_of_getLast?_eq_some hLast)).trans h)

/-- A part of a text is left after trimming if it begins with a character that is kept and another
one comes after it. -/
theorem infix_trimBoth (drop : Char → Bool) {c : Char} (hc : drop c = false)
    (start part : List Char) {rest : List Char} (h : ∃ d ∈ rest, drop d = false) :
    c :: part <:+: trimBoth drop (start ++ c :: (part ++ rest)) := by
  have hDrop : (start ++ c :: (part ++ rest)).dropWhile drop =
      start.dropWhile drop ++ (c :: part) ++ rest := by
    have hFirst : (c :: (part ++ rest)).dropWhile drop = c :: (part ++ rest) :=
      List.dropWhile_cons_of_neg (by rw [hc]; exact Bool.false_ne_true)
    rw [List.dropWhile_append, hFirst]
    split
    · rename_i hEmpty
      rw [List.isEmpty_iff.mp hEmpty]
      rfl
    · rw [List.append_assoc]
      rfl
  rw [trimBoth, hDrop, trimEnd_eq_rdropWhile, rdropWhile_append _ h]
  exact ⟨start.dropWhile drop, rest.rdropWhile drop, rfl⟩

end RelPipe.Text
