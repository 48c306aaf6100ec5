import Mathlib.Data.List.Dedup
import Mathlib.Data.List.Induction
import RelPipe.Proofs.Filter.Native
import RelPipe.Proofs.Grouping.Entries
import RelPipe.Proofs.Pipeline.Running
import RelPipe.Proofs.Planning.Projecting

/-!
When group keys have names of their own. A key is named after its column if no key before it has
this name, and after its position otherwise; the name by position is not searched for. So the only
clash is with a column that is called like a later position, and without one the identity of a group
holds each key under its own name.
-/

namespace RelPipe

set_option autoImplicit false

namespace Grouping

def positionName (index : Nat) : String := "K" ++ Text.Numeral.ofNat index

/-- An expression is the first one with its signature. -/
def Leads (es : List Expression) (e : Expression) : Prop :=
  es.find? (fun d => d.signature = e.signature) = some e

/-- How a group key gets the name of one before it. -/
structure KeyClash (before : List Expression) (e : Expression) : Prop where
  fresh : ∀ d ∈ before, d.signature ≠ e.signature
  /-- The key cannot be named after its column. -/
  numbered : ∀ name, columnKeyName? e = some name →
    name ∈ (keysFrom [] 0 before).map GroupKey.name
  /-- A column before it is called like the position of the key. -/
  taken : ∃ d, Leads before d ∧ columnKeyName? d = some (positionName before.length)

/-! One key after the others -/

theorem positionName_injective {i j : Nat} (h : positionName i = positionName j) : i = j :=
  Text.Numeral.ofNat_injective ((String.append_right_inj _).mp h)

theorem keysFrom_append (keys : List GroupKey) (index : Nat) (es rest : List Expression) :
    keysFrom keys index (es ++ rest) =
      keysFrom (keysFrom keys index es) (index + es.length) rest := by
  induction es generalizing keys index with
  | nil => rfl
  | cons e es ih =>
    rw [List.cons_append, keysFrom, ih, keysFrom, List.length_cons, Nat.add_right_comm,
      Nat.add_assoc]

theorem keysFrom_concat (es : List Expression) (e : Expression) :
    keysFrom [] 0 (es ++ [e]) = addKey (keysFrom [] 0 es) e es.length := by
  rw [keysFrom_append, Nat.zero_add]
  rfl

theorem any_signature_keysFrom (es : List Expression) (signature : Signature) :
    ((keysFrom [] 0 es).any fun k => k.signature = signature) = true ↔
      ∃ d ∈ es, d.signature = signature := by
  have hFirst : ((keysFrom [] 0 es).find? fun k => k.signature = signature).map
      GroupKey.expression = es.find? fun e => e.signature = signature :=
    find?_keysFrom [] 0 es signature
  rw [← List.isSome_find?, ← Option.isSome_map, hFirst, List.find?_isSome]
  simp only [decide_eq_true_eq]

theorem any_name_iff {keys : List GroupKey} {name : String} :
    (keys.any fun k => k.name = name) = true ↔ name ∈ keys.map GroupKey.name := by
  rw [List.any_eq_true, List.mem_map]
  simp only [decide_eq_true_eq]

theorem keyName_cases (keys : List GroupKey) (e : Expression) (index : Nat) :
    (∃ name, columnKeyName? e = some name ∧ name ∉ keys.map GroupKey.name ∧
        keyName keys e index = name) ∨
      (∀ name, columnKeyName? e = some name → name ∈ keys.map GroupKey.name) ∧
        keyName keys e index = positionName index := by
  unfold keyName
  split
  · rename_i name hColumn
    split
    · rename_i hUsed
      refine .inr ⟨fun other hOther => ?_, rfl⟩
      obtain rfl := Option.some.inj (hColumn.symm.trans hOther)
      exact any_name_iff.mp hUsed
    · rename_i hFree
      exact .inl ⟨name, hColumn, mt any_name_iff.mpr hFree, rfl⟩
  · rename_i hNone
    refine .inr ⟨fun other hOther => ?_, rfl⟩
    rw [hNone] at hOther
    cases hOther

theorem leads_concat {es : List Expression} {e d : Expression} :
    Leads (es ++ [e]) d ↔ Leads es d ∨ d = e ∧ ∀ c ∈ es, c.signature ≠ e.signature := by
  rw [Leads, Leads, List.find?_append, Option.or_eq_some_iff, List.find?_singleton]
  refine or_congr_right ⟨?_, ?_⟩
  · rintro ⟨hNone, hFound⟩
    split at hFound
    · obtain rfl := Option.some.inj hFound
      exact ⟨rfl, by simpa using hNone⟩
    · cases hFound
  · rintro ⟨rfl, hFresh⟩
    exact ⟨by simpa using hFresh, if_pos (decide_eq_true rfl)⟩

/-- A key has the name of a later position exactly if a column is called so. -/
theorem positionName_mem_iff {es : List Expression} {position : Nat} (h : es.length ≤ position) :
    positionName position ∈ (keysFrom [] 0 es).map GroupKey.name ↔
      ∃ d, Leads es d ∧ columnKeyName? d = some (positionName position) := by
  induction es using List.reverseRecOn with
  | nil => simp [keysFrom, Leads]
  | append_singleton es e ih =>
    rw [List.length_append, List.length_singleton] at h
    have hEarlier := ih (by omega)
    simp only [leads_concat, or_and_right, exists_or, and_assoc, exists_eq_left, ← hEarlier]
    rw [keysFrom_concat, addKey]
    split
    · rename_i hKnown
      obtain ⟨d, hd, hSame⟩ := (any_signature_keysFrom es e.signature).mp hKnown
      exact (or_iff_left fun hFresh => hFresh.1 d hd hSame).symm
    · rename_i hNew
      have hFresh : ∀ d ∈ es, d.signature ≠ e.signature :=
        fun d hd hSame => hNew ((any_signature_keysFrom es e.signature).mpr ⟨d, hd, hSame⟩)
      rw [List.map_append, List.mem_append, List.map_singleton, List.mem_singleton]
      obtain ⟨name, hColumn, _, hName⟩ | ⟨hUsed, hName⟩ := keyName_cases (keysFrom [] 0 es) e es.length
      · rw [hName, hColumn, Option.some.injEq, eq_comm (a := name)]
        exact or_congr_right (and_iff_right hFresh).symm
      · -- The name is that of an earlier position, and the column's is there already.
        have hOther : positionName position ≠ positionName es.length :=
          fun hSame => absurd (positionName_injective hSame) (by omega)
        rw [hName, or_iff_left hOther]
        exact (or_iff_left_of_imp fun hColumn => hUsed _ hColumn.2).symm

theorem nodup_addKey_iff (es : List Expression) (e : Expression) :
    ((addKey (keysFrom [] 0 es) e es.length).map GroupKey.name).Nodup ↔
      ((keysFrom [] 0 es).map GroupKey.name).Nodup ∧ ¬ KeyClash es e := by
  unfold addKey
  split
  · rename_i hKnown
    obtain ⟨d, hd, hSame⟩ := (any_signature_keysFrom es e.signature).mp hKnown
    exact (and_iff_left fun hClash => hClash.fresh d hd hSame).symm
  · rename_i hNew
    have hFresh : ∀ d ∈ es, d.signature ≠ e.signature :=
      fun d hd hSame => hNew ((any_signature_keysFrom es e.signature).mpr ⟨d, hd, hSame⟩)
    have hClash : KeyClash es e ↔
        keyName (keysFrom [] 0 es) e es.length ∈ (keysFrom [] 0 es).map GroupKey.name := by
      obtain ⟨name, hColumn, hFree, hName⟩ | ⟨hUsed, hName⟩ :=
        keyName_cases (keysFrom [] 0 es) e es.length
      · rw [hName]
        exact iff_of_false (fun hClash => hFree (hClash.numbered name hColumn)) hFree
      · rw [hName, positionName_mem_iff (Nat.le_refl _)]
        exact ⟨fun hClash => hClash.taken, fun hTaken => ⟨hFresh, hUsed, hTaken⟩⟩
    rw [hClash, List.map_append, List.map_singleton, ← List.concat_eq_append, List.nodup_concat]
    exact and_comm

/-- Group keys have different names exactly if none clashes with those before it. -/
theorem nodup_names_keysFrom_iff (es : List Expression) :
    ((keysFrom [] 0 es).map GroupKey.name).Nodup ↔
      ∀ i, ∀ h : i < es.length, ¬ KeyClash (es.take i) es[i] := by
  induction es using List.reverseRecOn with
  | nil => simp [keysFrom]
  | append_singleton es e ih =>
    rw [keysFrom_concat, nodup_addKey_iff, ih]
    exact (forall_before_concat (P := fun before e => ¬ KeyClash before e) es e).symm

end Grouping

/-! What the identity of a group holds -/

namespace Pipeline

theorem mem_addToGroup {key : Value} {inputs : List Value} {groups : List Group} {g : Group}
    (h : g ∈ addToGroup key inputs groups) : g.key = key ∨ ∃ old ∈ groups, g.key = old.key := by
  induction groups with
  | nil => exact .inl (by rw [List.mem_singleton.mp h])
  | cons old groups ih =>
    rw [addToGroup] at h
    split at h
    · obtain rfl | h := List.mem_cons.mp h
      · exact .inr ⟨old, .head _, rfl⟩
      · exact .inr ⟨g, .tail _ h, rfl⟩
    · obtain rfl | h := List.mem_cons.mp h
      · exact .inr ⟨g, .head _, rfl⟩
      · obtain hKey | ⟨other, hOther, hKey⟩ := ih h
        · exact .inl hKey
        · exact .inr ⟨other, .tail _ hOther, hKey⟩

theorem exists_of_mem_groupAll {vars : Variables} {key : Value} {accumulators : List Accumulator}
    {groups out : List Group} {documents : List Document}
    (h : groupAll vars key accumulators groups documents = .ok out) {g : Group} (hg : g ∈ out) :
    (∃ old ∈ groups, g.key = old.key) ∨
      ∃ d ∈ documents, ∃ v, evaluate ⟨d, vars⟩ key = .ok v ∧ g.key = v.presentOrNull := by
  induction documents generalizing groups with
  | nil =>
    cases h
    exact .inl ⟨g, hg, rfl⟩
  | cons d documents ih =>
    obtain ⟨v, hv, h⟩ := exists_of_bind_eq_ok h
    obtain ⟨inputs, _, h⟩ := exists_of_bind_eq_ok h
    obtain ⟨old, hOld, hKey⟩ | ⟨other, hOther, hKey⟩ := ih h
    · obtain hNew | ⟨older, hOlder, hSame⟩ := mem_addToGroup hOld
      · exact .inr ⟨d, .head _, v, hv, hKey.trans hNew⟩
      · exact .inl ⟨older, hOlder, hKey.trans hSame⟩
    · exact .inr ⟨other, .tail _ hOther, hKey⟩

theorem exists_of_mem_groupDocuments {accumulators : List Accumulator} {groups : List Group}
    {out : List Document} (h : groupDocuments accumulators groups = .ok out) {d : Document}
    (hd : d ∈ out) : ∃ g ∈ groups, Fields.get? d "_id" = some g.key := by
  induction groups generalizing out with
  | nil =>
    cases h
    cases hd
  | cons g groups ih =>
    obtain ⟨fields, _, h⟩ := exists_of_bind_eq_ok h
    obtain ⟨others, hOthers, h⟩ := exists_of_bind_eq_ok h
    cases h
    obtain rfl | hd := List.mem_cons.mp hd
    · exact ⟨g, .head _, rfl⟩
    · obtain ⟨other, hOther, hKey⟩ := ih hOthers hd
      exact ⟨other, .tail _ hOther, hKey⟩

theorem exists_of_mem_groupStage {vars : Variables} {body : Document} {documents out : List Document}
    (h : groupStage vars body documents = .ok out) {key : Value}
    (hKey : Fields.get? body "_id" = some key) {g : Document} (hg : g ∈ out) :
    ∃ d ∈ documents, ∃ v, evaluate ⟨d, vars⟩ key = .ok v ∧
      Fields.get? g "_id" = some v.presentOrNull := by
  rw [groupStage, hKey] at h
  obtain ⟨accumulators, _, h⟩ := exists_of_bind_eq_ok h
  obtain ⟨groups, hGroups, h⟩ := exists_of_bind_eq_ok h
  obtain ⟨group, hGroup, hIdentity⟩ := exists_of_mem_groupDocuments h hg
  obtain ⟨old, hOld, _⟩ | ⟨d, hd, v, hv, hSame⟩ := exists_of_mem_groupAll hGroups hGroup
  · cases hOld
  · exact ⟨d, hd, v, hv, hSame ▸ hIdentity⟩

theorem names_evaluateFields {env : Environment} {fields out : Document}
    (h : evaluateFields env fields = .ok out) :
    (out.map Prod.fst).Sublist (fields.map Prod.fst) := by
  induction fields generalizing out with
  | nil =>
    cases h
    exact .refl _
  | cons field fields ih =>
    obtain ⟨v, _, h⟩ := exists_of_bind_eq_ok h
    obtain ⟨others, hOthers, h⟩ := exists_of_bind_eq_ok h
    cases h
    split
    · exact (ih hOthers).cons field.1
    · exact (ih hOthers).cons_cons field.1

theorem get?_evaluateFields {env : Environment} {fields out : Document}
    (hDistinct : Fields.Distinct fields) (h : evaluateFields env fields = .ok out)
    {name : String} {e : Value} (hMem : (name, e) ∈ fields) :
    evaluate env e = .ok ((Fields.get? out name).getD .undefined) := by
  induction fields generalizing out with
  | nil => cases hMem
  | cons field fields ih =>
    obtain ⟨key, first⟩ := field
    obtain ⟨hHead, hTail⟩ := List.nodup_cons.mp hDistinct
    obtain ⟨v, hv, h⟩ := exists_of_bind_eq_ok h
    obtain ⟨others, hOthers, h⟩ := exists_of_bind_eq_ok h
    cases h
    cases hMem with
    | head =>
      -- A missing value is left out, and no later field has its name.
      have hNone : Fields.get? others name = none :=
        Fields.get?_eq_none_of_not_mem fun hName =>
          hHead ((names_evaluateFields hOthers).subset hName)
      rw [hv]
      cases v <;> simp [Value.isMissing, hNone, Fields.get?_cons]
    | tail _ hMem =>
      have hOther : key ≠ name := by
        rintro rfl
        exact hHead (List.mem_map.mpr ⟨_, hMem, rfl⟩)
      rw [ih hTail hOthers hMem]
      split
      · rfl
      · rw [Fields.get?_cons, if_neg hOther]

/-- Only a document with a single field can apply an operator. -/
theorem evaluate_identity {env : Environment} {fields : Document}
    (h : ∀ field, fields = [field] → Text.dollar field.1 = false) :
    evaluate env (.document fields) = (evaluateFields env fields).map .document := by
  match fields with
  | [] => rfl
  | [field] => exact evaluate_document (List.forall_mem_singleton.mpr (h field rfl))
  | _ :: _ :: _ => rfl

/-- The identity of a group is evaluated field by field, unless its only field is named like an
operator. -/
theorem evaluate_keys {site : Site} {keys : List GroupKey} {fields : Document}
    (h : List.Forall₂ (Grouping.WritesKey site) keys fields)
    (hDollar : ∀ k, keys = [k] → Text.dollar k.name = false) (env : Environment) :
    evaluate env (.document fields) = (evaluateFields env fields).map .document := by
  refine evaluate_identity ?_
  rintro field rfl
  obtain ⟨k, rest, hField, hRest, hKeys⟩ := List.forall₂_cons_right_iff.mp h
  rw [List.forall₂_nil_right_iff.mp hRest] at hKeys
  rw [hField.1]
  exact hDollar k hKeys

theorem evaluate_keyReference {g values : Document}
    (h : Fields.get? g "_id" = some (.document values)) {name : String}
    (hName : '.' ∉ name.toList) (vars : Variables) :
    evaluate ⟨g, vars⟩ (.string ("$_id." ++ name)) =
      .ok ((Fields.get? values name).getD .undefined) := by
  have hPath : "$_id." ++ name = "$" ++ ("_id" ++ "." ++ name) := by
    rw [← String.append_assoc, ← String.append_assoc]
    rfl
  have hDollar : Text.dollar ("_id" ++ "." ++ name) = false := by simp [Text.dollar]
  rw [hPath, evaluate_field hDollar, Environment.fieldValue, Document.path?_dotted _ (by decide), h]
  exact congrArg (fun v => Except.ok (Option.getD v .undefined)) (Document.path?_of_plain _ hName)

end Pipeline

open Pipeline

namespace Statement

/-- The group keys of a statement are told apart: each has a name, a field of the identity and a
reference of its own. -/
structure SeparatesKeys (s : Statement) : Prop where
  names : ((Grouping.ofStatement s).keys.map GroupKey.name).Nodup
  signatures : ((Grouping.ofStatement s).keys.map GroupKey.signature).Perm
    (s.groupBy.map Expression.signature).dedup
  fields : ∀ site body, (Grouping.ofStatement s).stageDocument site = .ok body → s.groupBy ≠ [] →
    ∃ fields, Fields.get? body "_id" = some (.document fields) ∧
      List.Forall₂ (Grouping.WritesKey site) (Grouping.ofStatement s).keys fields
  reads : (∀ k, (Grouping.ofStatement s).keys = [k] → Text.dollar k.name = false) →
    ∀ site body vars documents groups, (Grouping.ofStatement s).stageDocument site = .ok body →
      groupStage vars body documents = .ok groups → ∀ g ∈ groups, ∃ d ∈ documents,
        ∀ k ∈ (Grouping.ofStatement s).keys, ∃ v, Grouping.keyValue site k.expression = .ok v ∧
          ∀ outer, evaluate ⟨g, outer⟩ (.string ("$_id." ++ k.name)) = evaluate ⟨d, vars⟩ v

theorem perm_signatures (s : Statement) :
    ((Grouping.ofStatement s).keys.map GroupKey.signature).Perm
      (s.groupBy.map Expression.signature).dedup := by
  have hNone : (([] : List GroupKey).map GroupKey.signature).Nodup := List.nodup_nil
  have hNodup := Grouping.nodup_signatures_keysFrom hNone 0 s.groupBy
  refine (List.perm_ext_iff_of_nodup hNodup (List.nodup_dedup _)).mpr fun signature => ?_
  rw [List.mem_dedup, List.mem_map, List.mem_map]
  have hAny := Grouping.any_signature_keysFrom s.groupBy signature
  simpa using hAny

variable {s : Statement}

theorem identity_of_stageDocument (hNames : ((Grouping.ofStatement s).keys.map GroupKey.name).Nodup)
    {site : Site} {body : Document} (h : (Grouping.ofStatement s).stageDocument site = .ok body) :
    ∃ fields, List.Forall₂ (Grouping.WritesKey site) (Grouping.ofStatement s).keys fields ∧
      Fields.Distinct fields ∧
      Fields.get? body "_id" = some (if fields.isEmpty then .null else .document fields) := by
  obtain ⟨fields, accumulators, hFields, _, rfl⟩ := Grouping.exists_of_stageDocument h
  have hDistinct : Fields.Distinct fields := by
    rw [Fields.Distinct, names_eq_of_forall₂ (fun _ _ h => h.1) hFields]
    exact hNames
  refine ⟨fields, hFields, hDistinct, ?_⟩
  rw [Fields.ofPairs_of_distinct hDistinct, Fields.get?_cons, if_pos rfl]

theorem keys_ne_nil (h : s.groupBy ≠ []) : (Grouping.ofStatement s).keys ≠ [] := by
  intro hNil
  obtain ⟨e, he⟩ := List.exists_mem_of_ne_nil _ h
  have hAny := (Grouping.any_signature_keysFrom s.groupBy e.signature).mpr ⟨e, he, rfl⟩
  change ((Grouping.ofStatement s).keys.any _) = true at hAny
  rw [hNil] at hAny
  cases hAny

/-- A group has the values of its keys on one of its documents, each under its own reference. -/
theorem exists_keys_of_mem_groups (hNames : ((Grouping.ofStatement s).keys.map GroupKey.name).Nodup)
    (hDollar : ∀ k, (Grouping.ofStatement s).keys = [k] → Text.dollar k.name = false) {site : Site}
    {body : Document} (hBody : (Grouping.ofStatement s).stageDocument site = .ok body)
    {vars : Variables} {documents groups : List Document}
    (hRun : groupStage vars body documents = .ok groups) {g : Document} (hg : g ∈ groups) :
    ∃ d ∈ documents, ∀ k ∈ (Grouping.ofStatement s).keys,
      ∃ v, Grouping.keyValue site k.expression = .ok v ∧
        ∀ outer, evaluate ⟨g, outer⟩ (.string ("$_id." ++ k.name)) = evaluate ⟨d, vars⟩ v := by
  obtain ⟨fields, hFields, hDistinct, hIdentity⟩ := identity_of_stageDocument hNames hBody
  obtain ⟨d, hd, id, hId, hKey⟩ := exists_of_mem_groupStage hRun hIdentity hg
  refine ⟨d, hd, fun k hk => ?_⟩
  have hWritten : List.Forall₂ (flip (Grouping.WritesKey site)) fields _ := .flip hFields
  obtain ⟨⟨name, spec⟩, hField, hName, hSpec⟩ := exists_of_mem_of_forall₂ hWritten hk
  have hSome : fields.isEmpty = false := List.isEmpty_eq_false_iff.mpr (List.ne_nil_of_mem hField)
  rw [hSome, if_neg Bool.false_ne_true, evaluate_keys hFields hDollar] at hId
  obtain ⟨values, hValues, rfl⟩ := exists_of_map_eq_ok hId
  refine ⟨spec, hSpec, fun outer => ?_⟩
  rw [evaluate_keyReference hKey (Grouping.dot_not_mem_of_mem_keys hk) outer, ← hName]
  exact (get?_evaluateFields hDistinct hValues hField).symm

/-- A statement tells its group keys apart exactly if none clashes with those before it. -/
theorem separatesKeys_iff (s : Statement) :
    s.SeparatesKeys ↔
      ∀ i, ∀ h : i < s.groupBy.length, ¬ Grouping.KeyClash (s.groupBy.take i) s.groupBy[i] := by
  rw [← Grouping.nodup_names_keysFrom_iff]
  refine ⟨fun h => h.names, fun hNames => ⟨hNames, s.perm_signatures, ?_, ?_⟩⟩
  · intro site body hBody hGroupBy
    obtain ⟨fields, hFields, _, hIdentity⟩ := identity_of_stageDocument hNames hBody
    have hSome : fields.isEmpty = false := by
      rw [List.isEmpty_eq_false_iff, ← List.length_pos_iff, ← hFields.length_eq,
        List.length_pos_iff]
      exact keys_ne_nil hGroupBy
    rw [hSome] at hIdentity
    exact ⟨fields, hIdentity, hFields⟩
  · intro hDollar site body vars documents groups hBody hRun g hg
    exact exists_keys_of_mem_groups hNames hDollar hBody hRun hg

def byNumberAndName : Statement :=
  { Statement.empty with
    table := "Items"
    aliasName := some "i"
    groupBy := [.column ⟨some "i", "K1", .int32⟩,
      .call (.standard .upper) [.column ⟨some "i", "Name", .string⟩]] }

/-- The second key is named after its position, which is the name of the first. -/
theorem not_separatesKeys_byNumberAndName : ¬ byNumberAndName.SeparatesKeys := by
  intro h
  have hNames : (Grouping.ofStatement byNumberAndName).keys.map GroupKey.name = ["K1", "K1"] := by
    decide
  have hNodup := h.names
  rw [hNames] at hNodup
  exact absurd hNodup (by decide)

end Statement

end RelPipe
