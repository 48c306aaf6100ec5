import Mathlib.Data.List.Basic
import RelPipe.Text.Basic
import RelPipe.Text.Case

/-!
What lower-casing keeps. Digits and the marks before the small letters stand for themselves, and no
other character becomes one of them, so a text keeps a tail that is made of them.
-/

namespace RelPipe.Text

set_option autoImplicit false

/-- Digits and marks, whose code points lie before the small letters. -/
structure Caseless (c : Char) : Prop where
  positive : 0 < c.toNat
  below : c.toNat < 0x61
  uncapital : ¬ (0x41 ≤ c.toNat ∧ c.toNat ≤ 0x5a)

instance (c : Char) : Decidable (Caseless c) :=
  decidable_of_iff (0 < c.toNat ∧ c.toNat < 0x61 ∧ ¬ (0x41 ≤ c.toNat ∧ c.toNat ≤ 0x5a))
    ⟨fun h => ⟨h.1, h.2.1, h.2.2⟩, fun h => ⟨h.positive, h.below, h.uncapital⟩⟩

theorem caseless_of_isDigit {c : Char} (h : c.isDigit = true) : Caseless c := by
  have hRange : 48 ≤ c.toNat ∧ c.toNat ≤ 57 := by
    simpa [Char.isDigit, UInt32.le_iff_toNat_le] using h
  constructor <;> omega

theorem toLower_cases {c : Char} (h : c.toNat < 0x80) :
    c.toLower = c ∨ (0x41 ≤ c.toNat ∧ c.toNat ≤ 0x5a) ∧ 0x61 ≤ c.toLower.toNat := by
  have hAll : ∀ n < 0x80, (Char.ofNat n).toLower = Char.ofNat n ∨
      (0x41 ≤ (Char.ofNat n).toNat ∧ (Char.ofNat n).toNat ≤ 0x5a) ∧
        0x61 ≤ (Char.ofNat n).toLower.toNat := by decide
  have hChar := hAll c.toNat h
  rwa [Char.ofNat_toNat] at hChar

theorem le_mapCode_lower {n : Nat} (h : 0x61 ≤ n) : 0x61 ≤ mapCode CaseTable.lower n := by
  have hImages : (CaseTable.lower.all fun run => 0x61 ≤ run.image) = true := by decide +kernel
  unfold mapCode
  split
  · rename_i run hRun
    have hImage := List.all_eq_true.mp hImages run (List.mem_of_find?_eq_some hRun)
    have hLe : 0x61 ≤ run.image := of_decide_eq_true hImage
    unfold CaseRun.apply
    omega
  · exact h

theorem toNat_ofNat_cases (n : Nat) : (Char.ofNat n).toNat = n ∨ (Char.ofNat n).toNat = 0 := by
  by_cases h : n.isValidChar
  · refine .inl ?_
    rw [Char.ofNat, dif_pos h]
    rfl
  · refine .inr ?_
    rw [Char.ofNat, dif_neg h]
    rfl

variable {x : Char}

/-- Beyond the first half of the code page, no character becomes a digit or a mark. -/
theorem not_mem_lowerChar (hx : Caseless x) {c : Char} (hc : 0x80 ≤ c.toNat)
    (before after : List Char) : x ∉ lowerChar before c after := by
  have hBeyond : ∀ d : Char, d.toNat = 0 ∨ 0x61 ≤ d.toNat → x ≠ d := by
    rintro d hd rfl
    obtain ⟨hPositive, hBelow, _⟩ := hx
    omega
  unfold lowerChar
  rw [if_neg (Nat.not_lt.mpr hc)]
  split
  · split
    · exact List.mem_singleton.not.mpr (hBeyond _ (.inr (by decide)))
    · exact List.mem_singleton.not.mpr (hBeyond _ (.inr (by decide)))
  · split
    · simp only [List.mem_cons, List.not_mem_nil, or_false, not_or]
      exact ⟨hBeyond _ (.inr (by decide)), hBeyond _ (.inr (by decide))⟩
    · refine List.mem_singleton.not.mpr (hBeyond _ ?_)
      have hImage : 0x61 ≤ mapCode CaseTable.lower c.toNat := le_mapCode_lower (by omega)
      obtain hCode | hNone := toNat_ofNat_cases (mapCode CaseTable.lower c.toNat)
      · exact .inr (hCode.symm ▸ hImage)
      · exact .inl hNone

theorem mem_lowerChar_iff (hx : Caseless x) (before : List Char) (c : Char) (after : List Char) :
    x ∈ lowerChar before c after ↔ x = c := by
  by_cases hc : c.toNat < 0x80
  · rw [lowerChar, if_pos hc, List.mem_singleton]
    obtain hSame | ⟨hCapital, hSmall⟩ := toLower_cases hc
    · rw [hSame]
    · constructor
      · rintro rfl
        exact absurd hx.below (Nat.not_lt.mpr hSmall)
      · rintro rfl
        exact absurd hCapital hx.uncapital
  · refine iff_of_false (not_mem_lowerChar hx (Nat.not_lt.mp hc) before after) ?_
    rintro rfl
    exact hc (Nat.lt_trans hx.below (by decide))

theorem lowerChar_of_caseless (hx : Caseless x) (before after : List Char) :
    lowerChar before x after = [x] := by
  have hAscii : x.toNat < 0x80 := Nat.lt_trans hx.below (by decide)
  rw [lowerChar, if_pos hAscii]
  obtain hSame | ⟨hCapital, _⟩ := toLower_cases hAscii
  · rw [hSame]
  · exact absurd hCapital hx.uncapital

theorem mem_lowerFrom_iff (hx : Caseless x) (before cs : List Char) :
    x ∈ lowerFrom before cs ↔ x ∈ cs := by
  induction cs generalizing before with
  | nil => rfl
  | cons c cs ih =>
    rw [lowerFrom, List.mem_append, mem_lowerChar_iff hx, ih, List.mem_cons]

theorem mem_lower_iff (hx : Caseless x) (s : String) : x ∈ (lower s).toList ↔ x ∈ s.toList := by
  rw [lower, String.toList_ofList, mem_lowerFrom_iff hx]

theorem lowerChar_ne_nil (before : List Char) (c : Char) (after : List Char) :
    lowerChar before c after ≠ [] := by
  unfold lowerChar
  split_ifs <;> simp

theorem head?_lowerFrom_eq_iff (hx : Caseless x) (before cs : List Char) :
    (lowerFrom before cs).head? = some x ↔ cs.head? = some x := by
  cases cs with
  | nil => rfl
  | cons c cs =>
    rw [lowerFrom, List.head?_append_of_ne_nil _ (lowerChar_ne_nil before c cs), List.head?_cons,
      Option.some.injEq]
    constructor
    · intro h
      exact ((mem_lowerChar_iff hx before c cs).mp (List.mem_of_head? h)).symm
    · rintro rfl
      rw [lowerChar_of_caseless hx]
      rfl

theorem dollar_lower (s : String) : dollar (lower s) = dollar s := by
  have hMark : Caseless '$' := by decide
  rw [Bool.eq_iff_iff]
  simp only [dollar, lower, String.toList_ofList, beq_iff_eq]
  exact head?_lowerFrom_eq_iff hMark [] s.toList

theorem lowerFrom_of_caseless {tail : List Char} (h : ∀ c ∈ tail, Caseless c)
    (before : List Char) : lowerFrom before tail = tail := by
  induction tail generalizing before with
  | nil => rfl
  | cons c tail ih =>
    obtain ⟨hHead, hTail⟩ := List.forall_mem_cons.mp h
    rw [lowerFrom, lowerChar_of_caseless hHead, ih hTail]
    rfl

theorem exists_lowerFrom_append {tail : List Char} (h : ∀ c ∈ tail, Caseless c)
    (before cs : List Char) : ∃ start, lowerFrom before (cs ++ tail) = start ++ tail := by
  induction cs generalizing before with
  | nil => exact ⟨[], lowerFrom_of_caseless h before⟩
  | cons c cs ih =>
    obtain ⟨start, hStart⟩ := ih (c :: before)
    refine ⟨lowerChar before c (cs ++ tail) ++ start, ?_⟩
    rw [List.cons_append, lowerFrom, hStart, List.append_assoc]

end RelPipe.Text
