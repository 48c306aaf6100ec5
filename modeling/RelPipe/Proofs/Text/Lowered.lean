import RelPipe.Proofs.Text.Lowering

/-!
Lower-case texts. No character that lower-casing gives is changed by it again, so a lower-case text
is its own lower-case form, and marks stand next to each other in it where they stood before.
-/

namespace RelPipe.Text

set_option autoImplicit false

/-- A character that stays as it is, whatever stands around it. -/
def Lowered (c : Char) : Prop := ∀ before after, lowerChar before c after = [c]

theorem CaseRun.contains_iff {run : CaseRun} {n : Nat} :
    run.contains n = true ↔
      run.first ≤ n ∧ n ≤ run.last ∧ (n - run.first) % run.step = 0 := by
  simp [contains, and_assoc]

def CaseRun.avoids (run other : CaseRun) : Bool :=
  match Nat.ble run.image other.last, Nat.ble (other.first + run.first) (run.image + run.last) with
  | true, true =>
    (run.step == 2 && other.step == 2 && (run.image + other.first) % 2 == 1) ||
      (run.first == run.last && !other.contains run.image)
  | _, _ => true

theorem CaseRun.contains_apply_of_avoids {run other : CaseRun} (h : run.avoids other = true)
    {n : Nat} (hn : run.contains n = true) : other.contains (run.apply n) = false := by
  rw [Bool.eq_false_iff]
  intro hImage
  obtain ⟨hFirst, hLast, hStep⟩ := contains_iff.mp hn
  obtain ⟨hFirst', hLast', hStep'⟩ := contains_iff.mp hImage
  unfold apply at hFirst' hLast' hStep'
  have hLow : Nat.ble run.image other.last = true := Nat.ble_eq.mpr (by omega)
  have hHigh : Nat.ble (other.first + run.first) (run.image + run.last) = true :=
    Nat.ble_eq.mpr (by omega)
  rw [avoids, hLow, hHigh] at h
  simp only [Bool.or_eq_true, Bool.and_eq_true, beq_iff_eq, Bool.not_eq_true'] at h
  obtain ⟨⟨hTwo, hTwo'⟩, hOdd⟩ | ⟨hSingle, hOther⟩ := h
  · rw [hTwo] at hStep
    rw [hTwo'] at hStep'
    omega
  · obtain rfl : n = run.first := by omega
    rw [apply, Nat.sub_self, Nat.zero_add, hOther] at hImage
    cases hImage

/-- The code points that lower-casing changes. The first of them becomes two characters. -/
def changedRuns : List CaseRun := ⟨0x130, 0x130, 1, 0x69⟩ :: CaseTable.lower

def isChanged (n : Nat) : Bool := changedRuns.any (·.contains n)

/-- No code point is the image of one and the source of another. -/
theorem isChanged_mapCode (n : Nat) (h : n ≠ 0x130) :
    isChanged (mapCode CaseTable.lower n) = false := by
  have hAll : (CaseTable.lower.all fun run => changedRuns.all run.avoids) = true := by
    decide +kernel
  rw [isChanged, List.any_eq_false]
  intro other hOther
  rw [Bool.not_eq_true, mapCode]
  split
  · rename_i run hRun
    have hAvoids := List.all_eq_true.mp hAll run (List.mem_of_find?_eq_some hRun)
    have hContains := List.find?_some (p := fun run : CaseRun => run.contains n) hRun
    exact CaseRun.contains_apply_of_avoids (List.all_eq_true.mp hAvoids other hOther) hContains
  · rename_i hNone
    obtain rfl | hOther := List.mem_cons.mp hOther
    · rw [Bool.eq_false_iff, Ne, CaseRun.contains_iff]
      dsimp only
      omega
    · exact Bool.eq_false_iff.mpr (List.find?_eq_none.mp hNone other hOther)

theorem lowered_of_toLower {c : Char} (hAscii : c.toNat < 0x80) (h : c.toLower = c) :
    Lowered c := by
  intro before after
  rw [lowerChar, if_pos hAscii, h]

theorem lowered_of_not_isChanged {c : Char} (h : isChanged c.toNat = false) : Lowered c := by
  by_cases hAscii : c.toNat < 0x80
  · obtain hSame | ⟨hCapital, -⟩ := toLower_cases hAscii
    · exact lowered_of_toLower hAscii hSame
    · have hChanged := List.any_eq_false.mp h ⟨0x41, 0x5a, 1, 0x61⟩ (.tail _ (.head _))
      simp [CaseRun.contains, hCapital, Nat.mod_one] at hChanged
  · have hSigma : c ≠ 'Σ' := by
      rintro rfl
      exact absurd h (by decide +kernel)
    have hDotted : c ≠ 'İ' := by
      rintro rfl
      exact absurd h (by decide +kernel)
    have hNone : CaseTable.lower.find? (·.contains c.toNat) = none :=
      List.find?_eq_none.mpr fun run hRun => List.any_eq_false.mp h run (.tail _ hRun)
    intro before after
    rw [lowerChar, if_neg hAscii, if_neg hSigma, if_neg hDotted, mapCode, hNone]
    dsimp only
    rw [Char.ofNat_toNat]

theorem lowered_of_mem_lowerChar {before after : List Char} {c d : Char}
    (h : d ∈ lowerChar before c after) : Lowered d := by
  unfold lowerChar at h
  split at h
  · rename_i hAscii
    have hAll : ∀ n < 0x80, (Char.ofNat n).toLower.toNat < 0x80 ∧
        (Char.ofNat n).toLower.toLower = (Char.ofNat n).toLower := by decide
    have hChar := hAll c.toNat hAscii
    rw [Char.ofNat_toNat] at hChar
    rw [List.mem_singleton.mp h]
    exact lowered_of_toLower hChar.1 hChar.2
  · refine lowered_of_not_isChanged ?_
    split at h
    · split at h
      all_goals
        obtain rfl := List.mem_singleton.mp h
        decide +kernel
    · split at h
      · obtain rfl | rfl := List.mem_pair.mp h
        all_goals decide +kernel
      · rename_i hDotted
        obtain rfl := List.mem_singleton.mp h
        obtain hCode | hNone := toNat_ofNat_cases (mapCode CaseTable.lower c.toNat)
        · rw [hCode]
          refine isChanged_mapCode _ fun hPoint => hDotted ?_
          rw [← Char.ofNat_toNat c, hPoint]
        · rw [hNone]
          decide +kernel

theorem lowered_of_mem_lowerFrom {before cs : List Char} {d : Char} (h : d ∈ lowerFrom before cs) :
    Lowered d := by
  induction cs generalizing before with
  | nil => cases h
  | cons c cs ih =>
    obtain h | h := List.mem_append.mp h
    · exact lowered_of_mem_lowerChar h
    · exact ih h

theorem lowerFrom_of_lowered {cs : List Char} (h : ∀ c ∈ cs, Lowered c) (before : List Char) :
    lowerFrom before cs = cs := by
  induction cs generalizing before with
  | nil => rfl
  | cons c cs ih =>
    obtain ⟨hHead, hTail⟩ := List.forall_mem_cons.mp h
    rw [lowerFrom, hHead, ih hTail]
    rfl

theorem lower_of_lowered {s : String} (h : ∀ c ∈ s.toList, Lowered c) : lower s = s := by
  rw [lower, lowerFrom_of_lowered h, String.ofList_toList]

/-- A lower-case text is its own lower-case form. -/
theorem lower_lower (s : String) : lower (lower s) = lower s := by
  refine lower_of_lowered fun c hc => ?_
  rw [lower, String.toList_ofList] at hc
  exact lowered_of_mem_lowerFrom hc

/-! Where marks stand -/

section

variable {x y : Char}

theorem getLast?_lowerChar_eq_iff (hx : Caseless x) (before : List Char) (c : Char)
    (after : List Char) : (lowerChar before c after).getLast? = some x ↔ c = x := by
  constructor
  · intro h
    exact ((mem_lowerChar_iff hx before c after).mp (List.mem_of_getLast? h)).symm
  · rintro rfl
    rw [lowerChar_of_caseless hx]
    rfl

theorem getLast?_lowerFrom_eq_iff (hx : Caseless x) (before cs : List Char) :
    (lowerFrom before cs).getLast? = some x ↔ cs.getLast? = some x := by
  induction cs generalizing before with
  | nil => rfl
  | cons c cs ih =>
    rw [lowerFrom]
    cases cs with
    | nil =>
      rw [lowerFrom_nil, List.append_nil, getLast?_lowerChar_eq_iff hx, List.getLast?_singleton,
        Option.some.injEq]
    | cons d ds =>
      have hSome : lowerFrom (c :: before) (d :: ds) ≠ [] :=
        List.append_ne_nil_of_left_ne_nil (lowerChar_ne_nil _ _ _) _
      rw [List.getLast?_append_of_ne_nil _ hSome, ih, List.getLast?_cons_cons]

theorem pair_prefix_cons_iff {c : Char} {cs : List Char} :
    [x, y] <+: c :: cs ↔ x = c ∧ cs.head? = some y := by
  cases cs <;> simp [List.cons_prefix_cons, eq_comm]

theorem pair_infix_append_of_not_mem {block : List Char} (h : x ∉ block) (cs : List Char) :
    [x, y] <:+: block ++ cs ↔ [x, y] <:+: cs := by
  induction block with
  | nil => rfl
  | cons c block ih =>
    obtain ⟨hHead, hTail⟩ := not_or.mp (List.mem_cons.not.mp h)
    rw [List.cons_append, List.infix_cons_iff, pair_prefix_cons_iff, ih hTail]
    exact or_iff_right fun hPrefix => hHead hPrefix.1

/-- Two marks stand next to each other in a text where they do in its lower-case form. -/
theorem pair_infix_lowerFrom_iff (hx : Caseless x) (hy : Caseless y) (before cs : List Char) :
    [x, y] <:+: lowerFrom before cs ↔ [x, y] <:+: cs := by
  induction cs generalizing before with
  | nil => rfl
  | cons c cs ih =>
    have hSplit : [x, y] <:+: c :: cs ↔ [x, y] <+: c :: cs ∨ [x, y] <:+: cs := List.infix_cons_iff
    rw [lowerFrom, hSplit, pair_prefix_cons_iff, ← ih (c :: before)]
    by_cases hc : x = c
    · subst hc
      rw [lowerChar_of_caseless hx, List.singleton_append, List.infix_cons_iff,
        pair_prefix_cons_iff, head?_lowerFrom_eq_iff hy]
    · have hBlock : x ∉ lowerChar before c cs := mt (mem_lowerChar_iff hx before c cs).mp hc
      rw [pair_infix_append_of_not_mem hBlock]
      exact (or_iff_right fun hPrefix => hc hPrefix.1).symm

end

end RelPipe.Text
