import RelPipe.Regex.Search

/-!
What the search for an expression finds. Whether an expression matches a part of a text depends on
the character before that part and on what comes after it, since the conditions on places look at
both. The search follows derivatives: it finds a part that matches just if there is one.
-/

namespace RelPipe.Regex

set_option autoImplicit false

/-- The last character of a text, or the one before an empty text. -/
def lastOf : Option Char → List Char → Option Char
  | before, [] => before
  | _, c :: text => lastOf (some c) text

theorem lastOf_append (before : Option Char) (first second : List Char) :
    lastOf before (first ++ second) = lastOf (lastOf before first) second := by
  induction first generalizing before with
  | nil => rfl
  | cons c first ih => exact ih (some c)

theorem lastOf_some_ne_none (c : Char) (text : List Char) : lastOf (some c) text ≠ none := by
  induction text generalizing c with
  | nil => simp [lastOf]
  | cons d text ih => exact ih d

theorem lastOf_eq_none_iff {text : List Char} : lastOf none text = none ↔ text = [] := by
  cases text with
  | nil => simp [lastOf]
  | cons c text => simpa [lastOf] using lastOf_some_ne_none c text

/-! Languages -/

/-- Which texts are matched after a character and before another text. -/
abbrev Language := Option Char → List Char → List Char → Prop

namespace Language

variable {K L M : Language} {before : Option Char} {c : Char} {text after : List Char}

def unit : Language := fun _ text _ => text = []

def followedBy (K L : Language) : Language := fun before text after =>
  ∃ first second, text = first ++ second ∧ K before first (second ++ after) ∧
    L (lastOf before first) second after

def power (L : Language) : Nat → Language
  | 0 => unit
  | n + 1 => L.followedBy (L.power n)

@[simp] theorem unit_followedBy : unit.followedBy L = L := by
  funext before text after
  apply propext
  constructor
  · rintro ⟨first, second, rfl, rfl, h⟩
    exact h
  · intro h
    exact ⟨[], text, rfl, rfl, h⟩

@[simp] theorem followedBy_unit : L.followedBy unit = L := by
  funext before text after
  apply propext
  constructor
  · rintro ⟨first, second, rfl, h, rfl⟩
    simpa using h
  · intro h
    exact ⟨text, [], by simp, h, rfl⟩

theorem followedBy_assoc : (K.followedBy L).followedBy M = K.followedBy (L.followedBy M) := by
  funext before text after
  apply propext
  constructor
  · rintro ⟨_, third, rfl, ⟨first, second, rfl, hK, hL⟩, hM⟩
    rw [← List.append_assoc] at hK
    rw [lastOf_append] at hM
    exact ⟨first, second ++ third, List.append_assoc .., hK, second, third, rfl, hL, hM⟩
  · rintro ⟨first, _, rfl, hK, second, third, rfl, hL, hM⟩
    rw [List.append_assoc] at hK
    rw [← lastOf_append] at hM
    exact ⟨first ++ second, third, (List.append_assoc ..).symm, ⟨first, second, rfl, hK, hL⟩, hM⟩

theorem followedBy_nil : K.followedBy L before [] after ↔ K before [] after ∧ L before [] after := by
  constructor
  · rintro ⟨first, second, hNil, hK, hL⟩
    obtain ⟨rfl, rfl⟩ := List.append_eq_nil_iff.mp hNil.symm
    exact ⟨hK, hL⟩
  · rintro ⟨hK, hL⟩
    exact ⟨[], [], rfl, hK, hL⟩

/-- Either the first language takes the first character, or it takes nothing. -/
theorem followedBy_cons :
    K.followedBy L before (c :: text) after ↔
      (∃ first second, text = first ++ second ∧ K before (c :: first) (second ++ after) ∧
        L (lastOf (some c) first) second after) ∨
      K before [] (c :: text ++ after) ∧ L before (c :: text) after := by
  constructor
  · rintro ⟨first, second, hText, hK, hL⟩
    cases first with
    | nil =>
      obtain rfl : c :: text = second := hText
      exact .inr ⟨hK, hL⟩
    | cons d first =>
      obtain ⟨rfl, rfl⟩ := List.cons.inj hText
      exact .inl ⟨first, second, rfl, hK, hL⟩
  · rintro (⟨first, second, rfl, hK, hL⟩ | ⟨hK, hL⟩)
    · exact ⟨c :: first, second, rfl, hK, hL⟩
    · exact ⟨[], c :: text, rfl, hK, hL⟩

theorem power_nil {n : Nat} : L.power n before [] after ↔ n = 0 ∨ L before [] after := by
  induction n with
  | zero => simp [power, unit]
  | succ n ih =>
    rw [power, followedBy_nil, ih]
    constructor
    · exact fun h => .inr h.1
    · rintro (hZero | h)
      · cases hZero
      · exact ⟨h, .inr h⟩

/-- The first of several rounds that takes a character, after rounds that take none. -/
theorem power_cons {n : Nat} :
    L.power n before (c :: text) after ↔
      ∃ k m, n = k + m + 1 ∧ (k = 0 ∨ L before [] (c :: text ++ after)) ∧
        ∃ first second, text = first ++ second ∧ L before (c :: first) (second ++ after) ∧
          L.power m (lastOf (some c) first) second after := by
  induction n with
  | zero =>
    constructor
    · nofun
    · rintro ⟨k, m, hRounds, -⟩
      omega
  | succ n ih =>
    rw [power, followedBy_cons, ih]
    constructor
    · rintro (hFirst | ⟨hEmpty, k, m, rfl, -, hRest⟩)
      · exact ⟨0, n, by omega, .inl rfl, hFirst⟩
      · exact ⟨k + 1, m, by omega, .inr hEmpty, hRest⟩
    · rintro ⟨k, m, hRounds, hEmpty, hRest⟩
      cases k with
      | zero =>
        obtain rfl : n = m := by omega
        exact .inl hRest
      | succ k =>
        have hEmpty : L before [] (c :: text ++ after) := by simpa using hEmpty
        exact .inr ⟨hEmpty, k, m, by omega, .inr hEmpty, hRest⟩

end Language

/-! Matches -/

def Matches : Regex → Language
  | .empty => .unit
  | .one s => fun _ text _ => ∃ c, s.contains c = true ∧ text = [c]
  | .look l => fun before text after => text = [] ∧ l.holds ⟨before, after.head?⟩ = true
  | .seq r q => r.Matches.followedBy q.Matches
  | .alt r q => fun before text after => r.Matches before text after ∨ q.Matches before text after
  | .rep r least most => fun before text after =>
      ∃ n, least ≤ n ∧ (∀ m ∈ most, n ≤ m) ∧ r.Matches.power n before text after
  | .group r => r.Matches

def MatchesAll : List Regex → Language
  | [] => .unit
  | r :: rest => r.Matches.followedBy (MatchesAll rest)

theorem matchesAll_single (r : Regex) : MatchesAll [r] = r.Matches := Language.followedBy_unit

theorem matchesAll_append (rs qs : List Regex) :
    MatchesAll (rs ++ qs) = (MatchesAll rs).followedBy (MatchesAll qs) := by
  induction rs with
  | nil => simp [MatchesAll]
  | cons r rs ih => rw [List.cons_append, MatchesAll, MatchesAll, ih, Language.followedBy_assoc]

theorem matches_andThen (r q : Regex) :
    (r.andThen q).Matches = r.Matches.followedBy q.Matches := by
  unfold andThen
  split
  · simp [Matches]
  · simp [Matches]
  · rfl

theorem matches_sequence (parts : List Regex) : (sequence parts).Matches = MatchesAll parts := by
  induction parts with
  | nil => rfl
  | cons r parts ih =>
    change (r.andThen (sequence parts)).Matches = _
    rw [matches_andThen, ih, MatchesAll]

section

variable {rs : List Regex} {before : Option Char} {text after : List Char}

theorem matches_anyNumber {s : CharSet} (h : ∀ c ∈ text, s.contains c = true) :
    (rep (one s) 0 none).Matches before text after := by
  refine ⟨text.length, Nat.zero_le _, nofun, ?_⟩
  induction text generalizing before with
  | nil => rfl
  | cons c text ih =>
    rw [List.forall_mem_cons] at h
    exact ⟨[c], text, rfl, ⟨c, h.1, rfl⟩, ih h.2⟩

theorem matchesAll_textStart :
    MatchesAll (look .textStart :: rs) before text after ↔
      before = none ∧ MatchesAll rs before text after := by
  rw [MatchesAll]
  constructor
  · rintro ⟨first, second, rfl, ⟨rfl, hStart⟩, hRest⟩
    exact ⟨Option.isNone_iff_eq_none.mp hStart, hRest⟩
  · rintro ⟨rfl, hRest⟩
    exact ⟨[], text, rfl, ⟨rfl, rfl⟩, hRest⟩

theorem matchesAll_textEnd :
    MatchesAll (rs ++ [look .textEnd]) before text after ↔
      after = [] ∧ MatchesAll rs before text after := by
  rw [matchesAll_append, matchesAll_single]
  constructor
  · rintro ⟨first, second, rfl, hFirst, rfl, hEnd⟩
    obtain rfl : after = [] := by simpa [Look.holds] using hEnd
    exact ⟨rfl, by simpa using hFirst⟩
  · rintro ⟨rfl, hRest⟩
    exact ⟨text, [], by simp, by simpa using hRest, rfl, rfl⟩

end

/-! Derivatives -/

/-- No repetition ends before it may. -/
def Ordered : Regex → Prop
  | .empty | .one _ | .look _ => True
  | .seq r q | .alt r q => r.Ordered ∧ q.Ordered
  | .rep r least most => r.Ordered ∧ ∀ m ∈ most, least ≤ m
  | .group r => r.Ordered

theorem ordered_andThen {r q : Regex} (hr : r.Ordered) (hq : q.Ordered) :
    (r.andThen q).Ordered := by
  unfold andThen
  split
  · exact hq
  · exact hr
  · exact ⟨hr, hq⟩

theorem ordered_sequence {parts : List Regex} (h : ∀ r ∈ parts, r.Ordered) :
    (sequence parts).Ordered := by
  induction parts with
  | nil => trivial
  | cons r parts ih =>
    rw [List.forall_mem_cons] at h
    exact ordered_andThen h.1 (ih h.2)

section

variable {r : Regex} {rs : List Regex} {before : Option Char} {c : Char} {text after : List Char}

theorem nullable_iff (h : r.Ordered) (before : Option Char) (after : List Char) :
    nullable ⟨before, after.head?⟩ r = true ↔ r.Matches before [] after := by
  induction r with
  | empty => simp [nullable, Matches, Language.unit]
  | one s => simp [nullable, Matches]
  | look l => simp [nullable, Matches]
  | seq r q hr hq =>
    rw [nullable, Bool.and_eq_true, hr h.1, hq h.2, Matches, Language.followedBy_nil]
  | alt r q hr hq =>
    rw [nullable, Bool.or_eq_true, hr h.1, hq h.2]
    rfl
  | rep r least most hr =>
    rw [nullable, Bool.or_eq_true, beq_iff_eq, hr h.1]
    simp only [Matches, Language.power_nil]
    constructor
    · intro hEmpty
      exact ⟨least, Nat.le_refl least, h.2, hEmpty⟩
    · rintro ⟨n, hLeast, -, rfl | hEmpty⟩
      · exact .inl (Nat.le_zero.mp hLeast)
      · exact .inr hEmpty
  | group r hr => exact hr h

theorem allNullable_iff (h : ∀ r ∈ rs, r.Ordered) (before : Option Char) (after : List Char) :
    allNullable ⟨before, after.head?⟩ rs = true ↔ MatchesAll rs before [] after := by
  induction rs with
  | nil => simp [allNullable, MatchesAll, Language.unit]
  | cons r rs ih =>
    rw [List.forall_mem_cons] at h
    rw [MatchesAll, Language.followedBy_nil, ← ih h.2, ← nullable_iff h.1]
    exact Bool.and_eq_true_iff

theorem ordered_of_mem_derive {p : Place} (h : r.Ordered) (hrs : rs ∈ derive p c r) :
    ∀ q ∈ rs, q.Ordered := by
  induction r generalizing rs with
  | empty | look => cases hrs
  | one s =>
    rw [derive] at hrs
    split at hrs
    · obtain rfl := List.mem_singleton.mp hrs
      exact List.forall_mem_nil _
    · cases hrs
  | seq r q hr hq =>
    rw [derive, List.mem_append, List.mem_map] at hrs
    obtain ⟨rs, hrs, rfl⟩ | hrs := hrs
    · exact List.forall_mem_append.mpr ⟨hr h.1 hrs, List.forall_mem_singleton.mpr h.2⟩
    · split at hrs
      · exact hq h.2 hrs
      · cases hrs
  | alt r q hr hq =>
    obtain hrs | hrs := List.mem_append.mp hrs
    · exact hr h.1 hrs
    · exact hq h.2 hrs
  | rep r least most hr =>
    rw [derive] at hrs
    split at hrs
    · cases hrs
    · obtain ⟨first, hFirst, rfl⟩ := List.mem_map.mp hrs
      refine List.forall_mem_append.mpr ⟨hr h.1 hFirst, List.forall_mem_singleton.mpr ⟨h.1, ?_⟩⟩
      intro m hm
      obtain ⟨most, hMost, rfl⟩ := Option.map_eq_some_iff.mp hm
      have hLeast := h.2 most hMost
      split <;> omega
  | group r hr => exact hr h hrs

theorem ordered_of_mem_deriveAll {p : Place} {qs : List Regex} (h : ∀ r ∈ rs, r.Ordered)
    (hqs : qs ∈ deriveAll p c rs) : ∀ q ∈ qs, q.Ordered := by
  induction rs with
  | nil => cases hqs
  | cons r rs ih =>
    rw [List.forall_mem_cons] at h
    rw [deriveAll, List.mem_append, List.mem_map] at hqs
    obtain ⟨first, hFirst, rfl⟩ | hqs := hqs
    · exact List.forall_mem_append.mpr ⟨ordered_of_mem_derive h.1 hFirst, h.2⟩
    · split at hqs
      · exact ih h.2 hqs
      · cases hqs

/-- What is left of an expression, with other expressions after it. -/
theorem exists_matchesAll_append {ts : List (List Regex)} {qs : List Regex} :
    (∃ t ∈ ts.map (· ++ qs), MatchesAll t before text after) ↔
      ∃ first second, text = first ++ second ∧
        (∃ t ∈ ts, MatchesAll t before first (second ++ after)) ∧
        MatchesAll qs (lastOf before first) second after := by
  constructor
  · rintro ⟨u, hu, h⟩
    obtain ⟨t, ht, rfl⟩ := List.mem_map.mp hu
    rw [matchesAll_append] at h
    obtain ⟨first, second, rfl, hFirst, hSecond⟩ := h
    exact ⟨first, second, rfl, ⟨t, ht, hFirst⟩, hSecond⟩
  · rintro ⟨first, second, rfl, ⟨t, ht, hFirst⟩, hSecond⟩
    refine ⟨t ++ qs, List.mem_map.mpr ⟨t, ht, rfl⟩, ?_⟩
    rw [matchesAll_append]
    exact ⟨first, second, rfl, hFirst, hSecond⟩

theorem exists_mem_append_ite {p : Bool} {ts us : List (List Regex)} {P : List Regex → Prop} :
    (∃ t ∈ ts ++ if p then us else [], P t) ↔ (∃ t ∈ ts, P t) ∨ p = true ∧ ∃ t ∈ us, P t := by
  cases p <;> simp [or_and_right, exists_or]

/-- An expression takes a character and goes on with one of its derivatives. -/
theorem exists_derive_iff (h : r.Ordered) :
    (∃ t ∈ derive ⟨before, some c⟩ c r, MatchesAll t (some c) text after) ↔
      r.Matches before (c :: text) after := by
  induction r generalizing text after with
  | empty => simp [derive, Matches, Language.unit]
  | look l => simp [derive, Matches]
  | one s =>
    rw [derive]
    split
    · rename_i hTaken
      constructor
      · rintro ⟨t, ht, hText⟩
        obtain rfl := List.mem_singleton.mp ht
        exact ⟨c, hTaken, congrArg (c :: ·) hText⟩
      · rintro ⟨d, -, hText⟩
        exact ⟨[], .head _, (List.cons.inj hText).2⟩
    · rename_i hOther
      constructor
      · nofun
      · rintro ⟨d, hTaken, hText⟩
        obtain ⟨rfl, -⟩ := List.cons.inj hText
        exact absurd hTaken hOther
  | seq r q hr hq =>
    have hNullable : nullable ⟨before, some c⟩ r = true ↔
        r.Matches before [] (c :: text ++ after) := nullable_iff h.1 before (c :: text ++ after)
    rw [derive, exists_mem_append_ite, exists_matchesAll_append, hq h.2, hNullable, Matches,
      Language.followedBy_cons]
    simp only [hr h.1, matchesAll_single]
  | alt r q hr hq =>
    simp only [derive, List.mem_append, or_and_right, exists_or, hr h.1, hq h.2, Matches]
  | rep r least most hr =>
    have hNullable : nullable ⟨before, some c⟩ r = true ↔
        r.Matches before [] (c :: text ++ after) := nullable_iff h.1 before (c :: text ++ after)
    simp only [derive, Matches, Language.power_cons]
    split
    · rename_i hNone
      simp only [hNone, Option.mem_some_iff, forall_eq']
      constructor
      · nofun
      · rintro ⟨n, -, hMost, k, m, rfl, -⟩
        omega
    · rename_i hSome
      have hPositive : ∀ m ∈ most, m ≠ 0 := by
        rintro m hm rfl
        exact hSome hm
      rw [exists_matchesAll_append, matchesAll_single]
      simp only [hr h.1, Matches]
      constructor
      · rintro ⟨first, second, rfl, hFirst, m, hLeast, hMost, hSecond⟩
        by_cases hEmpty : nullable ⟨before, some c⟩ r = true
        · -- Empty rounds stand for those that are still owed.
          refine ⟨max least (m + 1), by omega, fun most' hMost' => ?_, max least (m + 1) - (m + 1),
            m, by omega, .inr (hNullable.mp hEmpty), first, second, rfl, hFirst, hSecond⟩
          have hLess := hMost (most' - 1) (Option.map_eq_some_iff.mpr ⟨most', hMost', rfl⟩)
          have hOrder := h.2 most' hMost'
          have hAny := hPositive most' hMost'
          omega
        · rw [if_neg hEmpty] at hLeast
          refine ⟨m + 1, by omega, fun most' hMost' => ?_, 0, m, by omega, .inl rfl, first, second,
            rfl, hFirst, hSecond⟩
          have hLess := hMost (most' - 1) (Option.map_eq_some_iff.mpr ⟨most', hMost', rfl⟩)
          have hAny := hPositive most' hMost'
          omega
      · rintro ⟨n, hLeast, hMost, k, m, rfl, hEmpty, first, second, rfl, hFirst, hSecond⟩
        refine ⟨first, second, rfl, hFirst, m, ?_, fun rest hRest => ?_, hSecond⟩
        · split
          · omega
          · rename_i hFull
            obtain rfl | hEmpty := hEmpty
            · omega
            · exact absurd (hNullable.mpr hEmpty) hFull
        · obtain ⟨most', hMost', rfl⟩ := Option.map_eq_some_iff.mp hRest
          have hBound := hMost most' hMost'
          omega
  | group r hr => exact hr h

theorem exists_deriveAll_iff (h : ∀ r ∈ rs, r.Ordered) :
    (∃ t ∈ deriveAll ⟨before, some c⟩ c rs, MatchesAll t (some c) text after) ↔
      MatchesAll rs before (c :: text) after := by
  induction rs with
  | nil => simp [deriveAll, MatchesAll, Language.unit]
  | cons r rs ih =>
    rw [List.forall_mem_cons] at h
    have hNullable : nullable ⟨before, some c⟩ r = true ↔
        r.Matches before [] (c :: text ++ after) := nullable_iff h.1 before (c :: text ++ after)
    rw [deriveAll, exists_mem_append_ite, exists_matchesAll_append, ih h.2, hNullable, MatchesAll,
      Language.followedBy_cons]
    simp only [exists_derive_iff h.1]

end

/-! The search -/

def Begins (rs : List Regex) (before : Option Char) (text : List Char) : Prop :=
  ∃ found rest, text = found ++ rest ∧ MatchesAll rs before found rest

def Occurs (r : Regex) (before : Option Char) (text : List Char) : Prop :=
  ∃ passed rest, text = passed ++ rest ∧ Begins [r] (lastOf before passed) rest

section

variable {r : Regex} {rs : List Regex} {before : Option Char} {c : Char} {text : List Char}

theorem begins_nil (h : ∀ r ∈ rs, r.Ordered) :
    Begins rs before [] ↔ allNullable ⟨before, none⟩ rs = true := by
  have hNullable := allNullable_iff h before []
  rw [List.head?_nil] at hNullable
  rw [hNullable]
  constructor
  · rintro ⟨found, rest, hNil, hFound⟩
    obtain ⟨rfl, rfl⟩ := List.append_eq_nil_iff.mp hNil.symm
    exact hFound
  · intro hFound
    exact ⟨[], [], rfl, hFound⟩

theorem begins_cons (h : ∀ r ∈ rs, r.Ordered) :
    Begins rs before (c :: text) ↔ allNullable ⟨before, some c⟩ rs = true ∨
      ∃ t ∈ deriveAll ⟨before, some c⟩ c rs, Begins t (some c) text := by
  have hNullable : allNullable ⟨before, some c⟩ rs = true ↔
      MatchesAll rs before [] (c :: text) := allNullable_iff h before (c :: text)
  rw [hNullable]
  constructor
  · rintro ⟨found, rest, hText, hFound⟩
    cases found with
    | nil =>
      obtain rfl : c :: text = rest := hText
      exact .inl hFound
    | cons d found =>
      obtain ⟨rfl, rfl⟩ := List.cons.inj hText
      obtain ⟨t, ht, hRest⟩ := (exists_deriveAll_iff h).mpr hFound
      exact .inr ⟨t, ht, found, rest, rfl, hRest⟩
  · rintro (hFound | ⟨t, ht, found, rest, rfl, hFound⟩)
    · exact ⟨[], c :: text, rfl, hFound⟩
    · exact ⟨c :: found, rest, rfl, (exists_deriveAll_iff h).mp ⟨t, ht, hFound⟩⟩

theorem occurs_nil : r.Occurs before [] ↔ Begins [r] before [] := by
  constructor
  · rintro ⟨passed, rest, hNil, h⟩
    obtain ⟨rfl, rfl⟩ := List.append_eq_nil_iff.mp hNil.symm
    exact h
  · intro h
    exact ⟨[], [], rfl, h⟩

theorem occurs_cons :
    r.Occurs before (c :: text) ↔ Begins [r] before (c :: text) ∨ r.Occurs (some c) text := by
  constructor
  · rintro ⟨passed, rest, hText, h⟩
    cases passed with
    | nil =>
      obtain rfl : c :: text = rest := hText
      exact .inl h
    | cons d passed =>
      obtain ⟨rfl, rfl⟩ := List.cons.inj hText
      exact .inr ⟨passed, rest, rfl, h⟩
  · rintro (h | ⟨passed, rest, rfl, h⟩)
    · exact ⟨[], c :: text, rfl, h⟩
    · exact ⟨c :: passed, rest, rfl, h⟩

/-- A search goes on from what has been begun or begins at a later place. -/
theorem occursFrom_iff {threads : List (List Regex)} (hr : r.Ordered)
    (hThreads : ∀ t ∈ threads, ∀ q ∈ t, q.Ordered) :
    occursFrom r before threads text = true ↔
      (∃ t ∈ threads, Begins t before text) ∨ r.Occurs before text := by
  have hSingle : ∀ q ∈ [r], q.Ordered := List.forall_mem_singleton.mpr hr
  induction text generalizing before threads with
  | nil =>
    rw [occursFrom, occurs_nil, begins_nil hSingle, List.any_cons, Bool.or_eq_true, List.any_eq_true,
      or_comm]
    refine or_congr_left (exists_congr fun t => and_congr_right fun ht => ?_)
    exact (begins_nil (hThreads t ht)).symm
  | cons c text ih =>
    have hAll : ∀ t ∈ [r] :: threads, ∀ q ∈ t, q.Ordered :=
      List.forall_mem_cons.mpr ⟨hSingle, hThreads⟩
    have hNext : ∀ t ∈ advance ⟨before, some c⟩ c ([r] :: threads), ∀ q ∈ t, q.Ordered := by
      intro t ht
      obtain ⟨t', ht', hDerived⟩ := mem_advance.mp ht
      exact ordered_of_mem_deriveAll (hAll t' ht') hDerived
    have hStep : (∃ t ∈ [r] :: threads, Begins t before (c :: text)) ↔
        ([r] :: threads).any (allNullable ⟨before, some c⟩) = true ∨
          ∃ t ∈ advance ⟨before, some c⟩ c ([r] :: threads), Begins t (some c) text := by
      rw [List.any_eq_true]
      simp only [mem_advance]
      constructor
      · rintro ⟨t, ht, hBegins⟩
        obtain hEmpty | ⟨t', ht', hBegins⟩ := (begins_cons (hAll t ht)).mp hBegins
        · exact .inl ⟨t, ht, hEmpty⟩
        · exact .inr ⟨t', ⟨t, ht, ht'⟩, hBegins⟩
      · rintro (⟨t, ht, hEmpty⟩ | ⟨t', ⟨t, ht, ht'⟩, hBegins⟩)
        · exact ⟨t, ht, (begins_cons (hAll t ht)).mpr (.inl hEmpty)⟩
        · exact ⟨t, ht, (begins_cons (hAll t ht)).mpr (.inr ⟨t', ht', hBegins⟩)⟩
    simp only [occursFrom, Bool.or_eq_true, ih hNext, ← or_assoc, ← hStep]
    simp only [List.mem_cons, exists_eq_or_imp, occurs_cons, or_assoc, or_left_comm]

/-- A search finds the parts of a text that match where they stand. -/
theorem occursIn_iff (h : r.Ordered) :
    r.occursIn text = true ↔ ∃ passed found rest, text = passed ++ found ++ rest ∧
      r.Matches (lastOf none passed) found rest := by
  rw [occursIn, occursFrom_iff h (List.forall_mem_nil _)]
  simp only [Occurs, Begins, matchesAll_single]
  constructor
  · rintro (⟨t, ht, -⟩ | ⟨passed, _, rfl, found, rest, rfl, hFound⟩)
    · cases ht
    · exact ⟨passed, found, rest, (List.append_assoc ..).symm, hFound⟩
  · rintro ⟨passed, found, rest, rfl, hFound⟩
    exact .inr ⟨passed, found ++ rest, List.append_assoc .., found, rest, rfl, hFound⟩

end

end RelPipe.Regex
