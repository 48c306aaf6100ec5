import Mathlib.Data.List.Nodup
import RelPipe.Compile.Planning
import RelPipe.Proofs.Document.Fields

/-!
The variables of a nested pipeline. They are numbered in the order of their binding, so each name
has one value; every column that is asked for is bound, and nothing else is.
-/

namespace RelPipe

set_option autoImplicit false

theorem Text.Numeral.ofNat_injective {m n : Nat} (h : ofNat m = ofNat n) : m = n := by
  have hDigits : Nat.toDigits 10 m = Nat.toDigits 10 n := String.ofList_injective h
  rw [← Nat.ofDigitChars_ten_toDigits (n := m), hDigits, Nat.ofDigitChars_ten_toDigits]

theorem Text.Numeral.not_mem_ofNat {c : Char} (h : c.isDigit = false) (n : Nat) :
    c ∉ (ofNat n).toList := by
  intro hMem
  rw [ofNat, String.toList_ofList] at hMem
  rw [Nat.isDigit_of_mem_toDigits (by decide) (by decide) hMem] at h
  cases h

namespace Correlations

def variableName (index : Nat) : String := "outer_" ++ Text.Numeral.ofNat index

theorem variableName_injective {m n : Nat} (h : variableName m = variableName n) : m = n :=
  Text.Numeral.ofNat_injective (String.append_right_inj _ |>.mp h)

theorem dot_not_mem_variableName (index : Nat) : '.' ∉ (variableName index).toList := by
  rw [variableName, String.toList_append, List.mem_append, not_or]
  exact ⟨by decide, Text.Numeral.not_mem_ofNat rfl index⟩

theorem variableName_ne_special (index : Nat) :
    variableName index ≠ "ROOT" ∧ variableName index ≠ "CURRENT" := by
  have hFirst : (variableName index).toList.head? = some 'o' := by
    rw [variableName, String.toList_append]
    rfl
  constructor
  all_goals
    intro hName
    rw [hName] at hFirst
    exact absurd hFirst (by decide)

/-- Variables are named by the order of their binding. -/
def Numbered (cs : Correlations) : Prop :=
  cs.map Correlation.name = (List.range cs.length).map variableName

theorem numbered_nil : Numbered [] := rfl

theorem Numbered.nodup {cs : Correlations} (h : cs.Numbered) :
    (cs.map Correlation.name).Nodup := by
  rw [h]
  exact List.nodup_range.map fun m n => variableName_injective

theorem Numbered.exists_index {cs : Correlations} (h : cs.Numbered) {c : Correlation}
    (hc : c ∈ cs) : ∃ index, c.name = variableName index := by
  have hName : c.name ∈ cs.map Correlation.name := List.mem_map.mpr ⟨c, hc, rfl⟩
  rw [h] at hName
  obtain ⟨index, _, hIndex⟩ := List.mem_map.mp hName
  exact ⟨index, hIndex.symm⟩

theorem Numbered.distinct {cs : Correlations} (h : cs.Numbered) :
    Fields.Distinct cs.toDocument := by
  rw [Fields.Distinct, toDocument, List.map_map]
  exact h.nodup

theorem Numbered.get?_toDocument {cs : Correlations} (h : cs.Numbered) {c : Correlation}
    (hc : c ∈ cs) : Fields.get? cs.toDocument c.name = some c.value :=
  Fields.get?_of_mem h.distinct (List.mem_map.mpr ⟨c, hc, rfl⟩)

theorem exists_of_nameOf? {cs : Correlations} {key : CorrelationKey} {name : String}
    (h : cs.nameOf? key = some name) : ∃ c ∈ cs, c.key = key ∧ c.name = name := by
  obtain ⟨c, hFound, hName⟩ := Option.map_eq_some_iff.mp h
  have hKey := List.find?_some hFound
  exact ⟨c, List.mem_of_find?_eq_some hFound, of_decide_eq_true hKey, hName⟩

theorem isSome_nameOf?_iff {cs : Correlations} {key : CorrelationKey} :
    (cs.nameOf? key).isSome = true ↔ ∃ c ∈ cs, c.key = key := by
  simp [nameOf?]

theorem numbered_bind {cs : Correlations} (h : cs.Numbered) (aliasName column : String)
    (value : Value) : (cs.bind aliasName column value).Numbered := by
  unfold bind
  dsimp only
  split
  · exact h
  · rw [Numbered, List.map_append, h, List.length_append, List.range_add]
    simp [variableName]

theorem mem_bind {cs : Correlations} {aliasName column : String} {value : Value} {c : Correlation}
    (h : c ∈ cs.bind aliasName column value) :
    c ∈ cs ∨ c.key = .of aliasName column ∧ c.value = value := by
  unfold bind at h
  dsimp only at h
  split at h
  · exact .inl h
  · obtain h | h := List.mem_append.mp h
    · exact .inl h
    · obtain rfl := List.mem_singleton.mp h
      exact .inr ⟨rfl, rfl⟩

theorem mem_bind_of_mem {cs : Correlations} {c : Correlation} (h : c ∈ cs)
    (aliasName column : String) (value : Value) : c ∈ cs.bind aliasName column value := by
  unfold bind
  dsimp only
  split
  · exact h
  · exact List.mem_append_left _ h

theorem exists_mem_bind (cs : Correlations) (aliasName column : String) (value : Value) :
    ∃ c ∈ cs.bind aliasName column value, c.key = .of aliasName column := by
  unfold bind
  dsimp only
  split
  · rename_i hBound
    exact isSome_nameOf?_iff.mp hBound
  · exact ⟨_, List.mem_append_right _ (List.mem_singleton.mpr rfl), rfl⟩

/-- Binds the columns whose qualifier is wanted, each to the path that it is read from. -/
def bindColumns (wanted : String → Bool) (path : ColumnRef → String) (cs : Correlations)
    (refs : List ColumnRef) : Correlations :=
  refs.foldl (fun cs ref =>
    match ref.qualifier with
    | none => cs
    | some qualifier =>
      if wanted qualifier then cs.bind qualifier ref.name (.string (path ref)) else cs) cs

section

variable {wanted : String → Bool} {path : ColumnRef → String}

theorem bindColumns_cons (cs : Correlations) (ref : ColumnRef) (refs : List ColumnRef) :
    (∃ qualifier, ref.qualifier = some qualifier ∧ wanted qualifier = true ∧
      bindColumns wanted path cs (ref :: refs) =
        bindColumns wanted path (cs.bind qualifier ref.name (.string (path ref))) refs) ∨
    (∀ qualifier, ref.qualifier = some qualifier → wanted qualifier = false) ∧
      bindColumns wanted path cs (ref :: refs) = bindColumns wanted path cs refs := by
  unfold bindColumns
  rw [List.foldl_cons]
  cases ref.qualifier with
  | none => exact .inr ⟨nofun, rfl⟩
  | some qualifier =>
    cases hWanted : wanted qualifier with
    | true => exact .inl ⟨qualifier, rfl, hWanted, by simp only [hWanted, if_true]⟩
    | false =>
      refine .inr ⟨?_, by simp only [hWanted, Bool.false_eq_true, if_false]⟩
      rintro _ ⟨⟩
      exact hWanted

theorem numbered_bindColumns {cs : Correlations} (h : cs.Numbered) (refs : List ColumnRef) :
    (bindColumns wanted path cs refs).Numbered := by
  induction refs generalizing cs with
  | nil => exact h
  | cons ref refs ih =>
    obtain ⟨qualifier, _, _, hStep⟩ | ⟨_, hStep⟩ := bindColumns_cons cs ref refs
    · rw [hStep]
      exact ih (numbered_bind h _ _ _)
    · rw [hStep]
      exact ih h

theorem mem_bindColumns_of_mem {cs : Correlations} {c : Correlation} (h : c ∈ cs)
    (refs : List ColumnRef) : c ∈ bindColumns wanted path cs refs := by
  induction refs generalizing cs with
  | nil => exact h
  | cons ref refs ih =>
    obtain ⟨qualifier, _, _, hStep⟩ | ⟨_, hStep⟩ := bindColumns_cons cs ref refs
    · rw [hStep]
      exact ih (mem_bind_of_mem h _ _ _)
    · rw [hStep]
      exact ih h

theorem mem_bindColumns {cs : Correlations} {refs : List ColumnRef} {c : Correlation}
    (h : c ∈ bindColumns wanted path cs refs) :
    c ∈ cs ∨ ∃ ref ∈ refs, ∃ qualifier, ref.qualifier = some qualifier ∧
      wanted qualifier = true ∧ c.key = .of qualifier ref.name ∧ c.value = .string (path ref) := by
  induction refs generalizing cs with
  | nil => exact .inl h
  | cons ref refs ih =>
    obtain ⟨qualifier, hQualifier, hWanted, hStep⟩ | ⟨_, hStep⟩ := bindColumns_cons cs ref refs
    · rw [hStep] at h
      obtain h | ⟨ref', hRef, hRest⟩ := ih h
      · obtain h | ⟨hKey, hValue⟩ := mem_bind h
        · exact .inl h
        · exact .inr ⟨ref, .head _, qualifier, hQualifier, hWanted, hKey, hValue⟩
      · exact .inr ⟨ref', .tail _ hRef, hRest⟩
    · rw [hStep] at h
      obtain h | ⟨ref', hRef, hRest⟩ := ih h
      · exact .inl h
      · exact .inr ⟨ref', .tail _ hRef, hRest⟩

theorem exists_mem_bindColumns {refs : List ColumnRef} {ref : ColumnRef} (hRef : ref ∈ refs)
    {qualifier : String} (hQualifier : ref.qualifier = some qualifier)
    (hWanted : wanted qualifier = true) (cs : Correlations) :
    ∃ c ∈ bindColumns wanted path cs refs, c.key = .of qualifier ref.name := by
  induction refs generalizing cs with
  | nil => cases hRef
  | cons first refs ih =>
    obtain rfl | hRef := List.mem_cons.mp hRef
    · obtain ⟨qualifier', hQualifier', _, hStep⟩ | ⟨hNone, _⟩ := bindColumns_cons cs ref refs
      · rw [hQualifier, Option.some.injEq] at hQualifier'
        subst hQualifier'
        obtain ⟨c, hc, hKey⟩ := exists_mem_bind cs qualifier ref.name (.string (path ref))
        rw [hStep]
        exact ⟨c, mem_bindColumns_of_mem hc refs, hKey⟩
      · rw [hNone qualifier hQualifier] at hWanted
        cases hWanted
    · obtain ⟨_, _, _, hStep⟩ | ⟨_, hStep⟩ := bindColumns_cons cs first refs
      · rw [hStep]
        exact ih hRef _
      · rw [hStep]
        exact ih hRef _

/-- A wanted column is read from a variable, which has the path of a column of the same key. -/
theorem exists_nameOf?_bindColumns {refs : List ColumnRef} {ref : ColumnRef} (hRef : ref ∈ refs)
    {qualifier : String} (hQualifier : ref.qualifier = some qualifier)
    (hWanted : wanted qualifier = true) :
    ∃ index, ∃ ref' ∈ refs, ∃ qualifier', ref'.qualifier = some qualifier' ∧
      CorrelationKey.of qualifier' ref'.name = .of qualifier ref.name ∧
      (bindColumns wanted path [] refs).nameOf? (.of qualifier ref.name) =
        some (variableName index) ∧
      Fields.get? (bindColumns wanted path [] refs).toDocument (variableName index) =
        some (.string (path ref')) := by
  have hNumbered : (bindColumns wanted path [] refs).Numbered := numbered_bindColumns numbered_nil refs
  have hBound : ∃ c ∈ bindColumns wanted path [] refs, c.key = .of qualifier ref.name :=
    exists_mem_bindColumns hRef hQualifier hWanted []
  obtain ⟨name, hName⟩ := Option.isSome_iff_exists.mp (isSome_nameOf?_iff.mpr hBound)
  obtain ⟨c, hc, hKey, rfl⟩ := exists_of_nameOf? hName
  obtain ⟨index, hIndex⟩ := hNumbered.exists_index hc
  obtain hNil | ⟨ref', hRef', qualifier', hQualifier', _, hOrigin, hValue⟩ := mem_bindColumns hc
  · cases hNil
  · refine ⟨index, ref', hRef', qualifier', hQualifier', hOrigin.symm.trans hKey, ?_, ?_⟩
    · rw [hName, hIndex]
    · rw [← hIndex, hNumbered.get?_toDocument hc, hValue]

theorem nameOf?_bindColumns_eq_none {refs : List ColumnRef} {key : CorrelationKey}
    (h : ∀ ref ∈ refs, ∀ qualifier, ref.qualifier = some qualifier → wanted qualifier = true →
      CorrelationKey.of qualifier ref.name ≠ key) :
    (bindColumns wanted path [] refs).nameOf? key = none := by
  rw [← Option.not_isSome_iff_eq_none, isSome_nameOf?_iff]
  rintro ⟨c, hc, rfl⟩
  obtain hNil | ⟨ref, hRef, qualifier, hQualifier, hWanted, hKey, _⟩ := mem_bindColumns hc
  · cases hNil
  · exact h ref hRef qualifier hQualifier hWanted hKey.symm

end

end Correlations

namespace Planning

theorem subqueryCorrelations_eq (p : Planning) (a : Aggregate) :
    p.subqueryCorrelations a =
      Correlations.bindColumns (fun _ => true) p.scope.columnPath [] (a.outerColumns []) := by
  unfold subqueryCorrelations Correlations.bindColumns
  congr 1

theorem joinCorrelations_eq (p : Planning) (field : String) (condition : Option Expression) :
    p.joinCorrelations field condition =
      Correlations.bindColumns
        (fun qualifier => !CaselessMap.sameName qualifier field && p.scope.aliases.contains qualifier)
        p.scope.columnPath [] (condition.toList.flatMap (·.outerColumns [])) := by
  unfold joinCorrelations Correlations.bindColumns
  dsimp only
  congr 1
  funext cs ref
  cases ref.qualifier with
  | none => rfl
  | some qualifier =>
    cases hSame : CaselessMap.sameName qualifier field <;>
      cases hKnown : p.scope.aliases.contains qualifier <;> simp [hSame, hKnown]

end Planning

end RelPipe
