import Mathlib.Data.List.Induction
import RelPipe.Proofs.CaselessMap
import RelPipe.Proofs.Planning.Projecting
import RelPipe.Proofs.Text.Lowering

/-!
When output columns without aliases share a field. A column is told from those before it by its
index, but the search for its name comes before dots and dollars are replaced, and the name with the
index is not searched for. These are the only ways in which two names can come to be the same.
-/

namespace RelPipe

set_option autoImplicit false

theorem ColumnName.sanitize_append (a b : String) : sanitize (a ++ b) = sanitize a ++ sanitize b := by
  rw [sanitize, String.toList_append, List.map_append, String.ofList_append]
  rfl

theorem ColumnName.sanitize_of_not_mem {name : String}
    (h : '.' ∉ name.toList ∧ '$' ∉ name.toList) : sanitize name = name := by
  have hSame : ∀ c ∈ name.toList, (if (c = '.' || c = '$') = true then '_' else c) = c := by
    intro c hc
    refine if_neg fun hMark => ?_
    obtain hDot | hDollar := Bool.or_eq_true_iff.mp hMark
    · exact h.1 (of_decide_eq_true hDot ▸ hc)
    · exact h.2 (of_decide_eq_true hDollar ▸ hc)
  rw [sanitize, List.map_congr_left hSame, List.map_id', String.ofList_toList]

namespace OutputColumn

open CaselessMap (sameName)

/-- Whether a column is named after its qualifier and its name, rather than by its index. -/
def derives (o : OutputColumn) : Bool :=
  match o.expression with
  | .column ref => ref.name ≠ ""
  | _ => false

/-- The name of a column without an alias before it is told from others. -/
def plainName (index : Nat) (o : OutputColumn) : String :=
  match o.expression with
  | .column ref => if ref.name = "" then indexName index else derivedName index ref
  | _ => indexName index

def numberedName (index : Nat) (o : OutputColumn) : String :=
  o.plainName index ++ "_" ++ Text.Numeral.ofNat index

def plainNames (os : List OutputColumn) : List String :=
  os.mapIdx fun index o => ColumnName.sanitize (o.plainName index)

def Taken (names : List String) (name : String) : Prop :=
  ∃ other ∈ names, sameName other name = true

instance (names : List String) (name : String) : Decidable (Taken names name) :=
  inferInstanceAs (Decidable (∃ other ∈ names, sameName other name = true))

/-- How a column gets the name of one before it. -/
inductive Clashes (before : List OutputColumn) (o : OutputColumn) : Prop where
  /-- The names differ until dots and dollars are replaced. -/
  | flattened (h : o.derives = true)
    (hMarks : ColumnName.sanitize (o.plainName before.length) ≠ o.plainName before.length)
    (hTaken : Taken (fieldNames before) (ColumnName.sanitize (o.plainName before.length)))
  /-- The name with the index is that of another column. -/
  | numbered (h : o.derives = true) (hPlain : Taken (fieldNames before) (o.plainName before.length))
    (hTaken : Taken (plainNames before) (o.numberedName before.length))
  /-- The index alone is the name of a column. -/
  | indexed (h : o.derives = false) (hTaken : Taken (plainNames before) (indexName before.length))

/-! One column after the others -/

theorem plainName_of_not_derives {o : OutputColumn} (h : o.derives = false) (index : Nat) :
    o.plainName index = indexName index := by
  unfold plainName
  split
  · rename_i ref hRef
    rw [derives, hRef] at h
    exact if_pos (by simpa using h)
  · rfl

theorem fieldName_eq {o : OutputColumn} (h : o.explicitAlias? = none) (index : Nat)
    (used : CaselessMap Unit) :
    o.fieldName index used = ColumnName.sanitize
      (if o.derives = true ∧ used.contains (o.plainName index) = true then o.numberedName index
        else o.plainName index) := by
  obtain ⟨e, aliasName⟩ := o
  rw [fieldName, h]
  cases e with
  | column ref =>
    by_cases hName : ref.name = "" <;> simp [derives, numberedName, plainName, hName]
  | _ => simp [derives, plainName]

theorem fieldNamesFrom_append (index : Nat) (used : CaselessMap Unit) (os rest : List OutputColumn) :
    fieldNamesFrom index used (os ++ rest) = fieldNamesFrom index used os ++
      fieldNamesFrom (index + os.length)
        (used.insertAll ((fieldNamesFrom index used os).map (·, ()))) rest := by
  induction os generalizing index used with
  | nil => rfl
  | cons o os ih =>
    rw [List.cons_append, fieldNamesFrom, ih, List.length_cons, Nat.add_right_comm, Nat.add_assoc]
    rfl

def nextName (before : List OutputColumn) (o : OutputColumn) : String :=
  o.fieldName before.length (.ofList ((fieldNames before).map (·, ())))

theorem fieldNames_concat (before : List OutputColumn) (o : OutputColumn) :
    fieldNames (before ++ [o]) = fieldNames before ++ [nextName before o] := by
  rw [fieldNames, fieldNamesFrom_append, Nat.zero_add]
  rfl

theorem taken_iff_contains (names : List String) (name : String) :
    (CaselessMap.ofList (names.map (·, ()))).contains name = true ↔ Taken names name := by
  rw [CaselessMap.contains_ofList, List.any_map, List.any_eq_true]
  rfl

theorem nextName_cases (before : List OutputColumn) {o : OutputColumn}
    (h : o.explicitAlias? = none) :
    (o.derives = true ∧ Taken (fieldNames before) (o.plainName before.length)) ∧
        nextName before o = ColumnName.sanitize (o.numberedName before.length) ∨
      ¬ (o.derives = true ∧ Taken (fieldNames before) (o.plainName before.length)) ∧
        nextName before o = ColumnName.sanitize (o.plainName before.length) := by
  rw [nextName, fieldName_eq h]
  simp only [taken_iff_contains]
  split
  · rename_i hTold
    exact .inl ⟨hTold, rfl⟩
  · rename_i hPlain
    exact .inr ⟨hPlain, rfl⟩

theorem plainNames_concat (before : List OutputColumn) (o : OutputColumn) :
    plainNames (before ++ [o]) =
      plainNames before ++ [ColumnName.sanitize (o.plainName before.length)] := by
  rw [plainNames, List.mapIdx_concat]
  rfl

theorem taken_concat {names : List String} {last name : String} :
    Taken (names ++ [last]) name ↔ Taken names name ∨ sameName last name = true := by
  simp [Taken, or_and_right, exists_or]

/-! Names that end in a number -/

theorem not_mem_suffix (index : Nat) :
    '_' ∉ (Text.Numeral.ofNat index).toList := Text.Numeral.not_mem_ofNat rfl index

theorem caseless_suffix (index : Nat) :
    ∀ c ∈ '_' :: (Text.Numeral.ofNat index).toList, Text.Caseless c := by
  refine List.forall_mem_cons.mpr ⟨by decide, fun c hc => Text.caseless_of_isDigit ?_⟩
  rw [Text.Numeral.ofNat, String.toList_ofList] at hc
  exact Nat.isDigit_of_mem_toDigits (by decide) (by decide) hc

theorem takeWhile_reverse_suffix (start : List Char) (index : Nat) :
    (start ++ '_' :: (Text.Numeral.ofNat index).toList).reverse.takeWhile (· != '_') =
      (Text.Numeral.ofNat index).toList.reverse := by
  rw [List.reverse_append, List.reverse_cons, List.append_assoc, List.takeWhile_append_of_pos]
  · simp
  · intro c hc
    refine bne_iff_ne.mpr ?_
    rintro rfl
    exact not_mem_suffix index (List.mem_reverse.mp hc)

theorem exists_lower_numbered (a : String) (index : Nat) : ∃ start,
    (Text.lower (a ++ "_" ++ Text.Numeral.ofNat index)).toList =
      start ++ '_' :: (Text.Numeral.ofNat index).toList := by
  have hChars : (a ++ "_" ++ Text.Numeral.ofNat index).toList =
      a.toList ++ '_' :: (Text.Numeral.ofNat index).toList := by
    rw [String.toList_append, String.toList_append, List.append_assoc]
    rfl
  rw [Text.lower, String.toList_ofList, hChars]
  exact Text.exists_lowerFrom_append (caseless_suffix index) [] a.toList

/-- Names with different numbers at their ends are different in any letter case. -/
theorem eq_of_sameName_numbered {a b : String} {i j : Nat}
    (h : sameName (a ++ "_" ++ Text.Numeral.ofNat i) (b ++ "_" ++ Text.Numeral.ofNat j) = true) :
    i = j := by
  obtain ⟨start, hStart⟩ := exists_lower_numbered a i
  obtain ⟨start', hStart'⟩ := exists_lower_numbered b j
  have hTails : (Text.Numeral.ofNat i).toList.reverse = (Text.Numeral.ofNat j).toList.reverse := by
    -- The number is what follows the last mark.
    rw [← takeWhile_reverse_suffix start i, ← takeWhile_reverse_suffix start' j, ← hStart,
      ← hStart', CaselessMap.sameName_iff.mp h]
  exact Text.Numeral.ofNat_injective (String.toList_injective (List.reverse_injective hTails))

theorem not_sameName_indexName (a : String) (i j : Nat) :
    sameName (a ++ "_" ++ Text.Numeral.ofNat i) (indexName j) = false := by
  rw [Bool.eq_false_iff]
  intro hSame
  -- The first name has a mark in any letter case, the second has none.
  have hMark : '_' ∈ (Text.lower (indexName j)).toList := by
    rw [← CaselessMap.sameName_iff.mp hSame, Text.mem_lower_iff (by decide)]
    simp
  rw [Text.mem_lower_iff (by decide), indexName, String.toList_append, List.mem_append] at hMark
  obtain hMark | hMark := hMark
  · exact absurd hMark (by decide)
  · exact not_mem_suffix j hMark

/-! Where the name of a column comes from -/

theorem sanitize_of_taken {os : List OutputColumn} {name : String}
    (h : Taken (fieldNames os) name) : ColumnName.sanitize name = name := by
  obtain ⟨other, hOther, hSame⟩ := h
  have hClean : ∀ {c : Char}, c = '.' ∨ c = '$' → Text.Caseless c → c ∉ name.toList := by
    intro c hc hCaseless hMem
    rw [← Text.mem_lower_iff hCaseless, ← CaselessMap.sameName_iff.mp hSame,
      Text.mem_lower_iff hCaseless] at hMem
    exact not_mem_fieldNames hc hOther hMem
  exact ColumnName.sanitize_of_not_mem
    ⟨hClean (.inl rfl) (by decide), hClean (.inr rfl) (by decide)⟩

theorem sanitize_numeral (index : Nat) :
    ColumnName.sanitize (Text.Numeral.ofNat index) = Text.Numeral.ofNat index :=
  ColumnName.sanitize_of_not_mem
    ⟨Text.Numeral.not_mem_ofNat rfl index, Text.Numeral.not_mem_ofNat rfl index⟩

theorem sanitize_indexName (index : Nat) :
    ColumnName.sanitize (indexName index) = indexName index := by
  rw [indexName, ColumnName.sanitize_append, sanitize_numeral]
  rfl

theorem sanitize_numberedName {o : OutputColumn} {index : Nat}
    (h : ColumnName.sanitize (o.plainName index) = o.plainName index) :
    ColumnName.sanitize (o.numberedName index) = o.numberedName index := by
  rw [numberedName, ColumnName.sanitize_append, ColumnName.sanitize_append, h, sanitize_numeral]
  rfl

theorem Taken.of_sameName {names : List String} {a b : String} (h : Taken names a)
    (hSame : sameName a b = true) : Taken names b := by
  obtain ⟨other, hOther, hFound⟩ := h
  refine ⟨other, hOther, ?_⟩
  rwa [← CaselessMap.sameName_congr_right (CaselessMap.sameName_iff.mp hSame)]

/-- A name that is no other column's with its index is taken exactly if a plain name is it. -/
theorem taken_fieldNames_iff {before : List OutputColumn}
    (hAlias : ∀ o ∈ before, o.explicitAlias? = none) {name : String}
    (hName : ∀ x, ∀ i < before.length, sameName (x ++ "_" ++ Text.Numeral.ofNat i) name = false) :
    Taken (fieldNames before) name ↔ Taken (plainNames before) name := by
  induction before using List.reverseRecOn with
  | nil => exact Iff.rfl
  | append_singleton before o ih =>
    obtain ⟨hBefore, hLast⟩ := List.forall_mem_append.mp hAlias
    have hLength : (before ++ [o]).length = before.length + 1 := List.length_append
    rw [fieldNames_concat, plainNames_concat, taken_concat, taken_concat,
      ← ih hBefore fun x i hi => hName x i (by omega)]
    obtain ⟨⟨_, hTaken⟩, hNext⟩ | ⟨_, hNext⟩ := nextName_cases before (hLast o (.head _))
    · -- The column gave up a name that one before it has, so no name is freed by that.
      have hOther : sameName (nextName before o) name = false := by
        rw [hNext, sanitize_numberedName (sanitize_of_taken hTaken)]
        exact hName _ _ (by omega)
      rw [hOther, sanitize_of_taken hTaken]
      constructor
      · rintro (hFound | hFound)
        · exact .inl hFound
        · cases hFound
      · rintro (hFound | hSame)
        · exact .inl hFound
        · exact .inl (hTaken.of_sameName hSame)
    · rw [hNext]

theorem taken_nextName_iff {before : List OutputColumn} {o : OutputColumn}
    (hAlias : ∀ o ∈ before, o.explicitAlias? = none) (h : o.explicitAlias? = none) :
    Taken (fieldNames before) (nextName before o) ↔ Clashes before o := by
  obtain ⟨⟨hDerives, hTaken⟩, hNext⟩ | ⟨hPlain, hNext⟩ := nextName_cases before h
  · -- The name is another column's, so it has no dots and dollars, and no index is used twice.
    have hClean := sanitize_of_taken hTaken
    have hFresh : ∀ x, ∀ i < before.length,
        sameName (x ++ "_" ++ Text.Numeral.ofNat i) (o.numberedName before.length) = false := by
      intro x i hi
      rw [Bool.eq_false_iff]
      intro hSame
      exact absurd (eq_of_sameName_numbered hSame) (Nat.ne_of_lt hi)
    rw [hNext, sanitize_numberedName hClean, taken_fieldNames_iff hAlias hFresh]
    constructor
    · exact .numbered hDerives hTaken
    · rintro (⟨_, hMarks, _⟩ | ⟨_, _, hFound⟩ | ⟨hIndex, _⟩)
      · exact absurd hClean hMarks
      · exact hFound
      · rw [hDerives] at hIndex
        cases hIndex
  · rw [hNext]
    cases hDerives : o.derives with
    | true =>
      have hFree : ¬ Taken (fieldNames before) (o.plainName before.length) :=
        fun hTaken => hPlain ⟨hDerives, hTaken⟩
      constructor
      · intro hFound
        refine .flattened hDerives (fun hClean => hFree ?_) hFound
        rwa [hClean] at hFound
      · rintro (⟨_, _, hFound⟩ | ⟨_, hTaken, _⟩ | ⟨hIndex, _⟩)
        · exact hFound
        · exact absurd hTaken hFree
        · rw [hDerives] at hIndex
          cases hIndex
    | false =>
      rw [plainName_of_not_derives hDerives, sanitize_indexName,
        taken_fieldNames_iff hAlias fun x i _ => not_sameName_indexName x i before.length]
      constructor
      · exact .indexed hDerives
      · rintro (⟨hColumn, _, _⟩ | ⟨hColumn, _, _⟩ | ⟨_, hFound⟩)
        · rw [hDerives] at hColumn
          cases hColumn
        · rw [hDerives] at hColumn
          cases hColumn
        · exact hFound

theorem pairwise_concat_iff (names : List String) (last : String) :
    (names ++ [last]).Pairwise (fun a b => sameName a b = false) ↔
      names.Pairwise (fun a b => sameName a b = false) ∧ ¬ Taken names last := by
  simp [List.pairwise_append, Taken]

/-- Columns without aliases have different fields exactly if none clashes with those before it. -/
theorem fieldNames_distinct_iff {os : List OutputColumn}
    (hAlias : ∀ o ∈ os, o.explicitAlias? = none) :
    (fieldNames os).Pairwise (fun a b => sameName a b = false) ↔
      ∀ i, ∀ h : i < os.length, ¬ Clashes (os.take i) os[i] := by
  induction os using List.reverseRecOn with
  | nil => simp [fieldNames, fieldNamesFrom]
  | append_singleton before o ih =>
    obtain ⟨hBefore, hLast⟩ := List.forall_mem_append.mp hAlias
    rw [fieldNames_concat, pairwise_concat_iff, ih hBefore,
      taken_nextName_iff hBefore (hLast o (.head _))]
    exact (forall_before_concat (P := fun before o => ¬ Clashes before o) before o).symm

def namesAndCount : List OutputColumn :=
  [⟨.column ⟨some "i", "Name", .string⟩, none⟩, ⟨.column ⟨some "i", "name", .string⟩, none⟩,
    ⟨.aggregate ⟨.count, none, none⟩, none⟩]

theorem fieldNames_distinct_namesAndCount :
    fieldNames namesAndCount = ["i_Name", "i_name_1", "PrP2"] ∧
      ∀ i, ∀ h : i < namesAndCount.length, ¬ Clashes (namesAndCount.take i) namesAndCount[i] :=
  ⟨by decide, (fieldNames_distinct_iff (by decide)).mp (by decide)⟩

def markAndDot : List OutputColumn :=
  [⟨.column ⟨none, "A_B", .int32⟩, none⟩, ⟨.column ⟨none, "A.B", .int32⟩, none⟩]

theorem fieldNames_not_distinct :
    ¬ ∀ os : List OutputColumn, (∀ o ∈ os, o.explicitAlias? = none) →
      (fieldNames os).Pairwise fun a b => sameName a b = false := by
  intro hAll
  have hNames : fieldNames markAndDot = ["A_B", "A_B"] := by decide
  have hDistinct := hAll markAndDot (by decide)
  rw [hNames, List.pairwise_pair] at hDistinct
  exact absurd hDistinct (by decide)

end OutputColumn

end RelPipe
