import Mathlib.Data.List.Induction
import RelPipe.CaselessMap

/-!
Which names a caseless map has. Spellings of one name find the same entry, and writing adds no name
but its own. Which names are there after some writings does not depend on the values written, and
each has the value that was written last.
-/

namespace RelPipe.CaselessMap

set_option autoImplicit false

variable {α : Type}

theorem sameName_congr_right {a b : String} (h : Text.lower a = Text.lower b) (name : String) :
    sameName name a = sameName name b := by
  unfold sameName
  rw [h]

theorem contains_congr (m : CaselessMap α) {a b : String} (h : Text.lower a = Text.lower b) :
    m.contains a = m.contains b := by
  unfold contains
  simp only [sameName_congr_right h]

theorem get?_congr (m : CaselessMap α) {a b : String} (h : Text.lower a = Text.lower b) :
    m.get? a = m.get? b := by
  unfold get?
  simp only [sameName_congr_right h]

theorem contains_insert (m : CaselessMap α) (name : String) (value : α) (x : String) :
    (m.insert name value).contains x = (m.contains x || sameName name x) := by
  unfold insert
  split
  · rename_i hPresent
    -- Only a value changes, and `x` is present already if it is the written name.
    have hKeys : (m.entries.map fun e => if sameName e.1 name then (e.1, value) else e).any
        (fun e => sameName e.1 x) = m.contains x := by
      have hKey : ∀ e : String × α,
          (if sameName e.1 name = true then (e.1, value) else e).1 = e.1 := by
        intro e
        rw [apply_ite Prod.fst, ite_self]
      simp only [contains, List.any_map, Function.comp_def, hKey]
    cases hSame : sameName name x with
    | false => rw [Bool.or_false, contains, hKeys]
    | true =>
      have hFound : m.contains x = true := by
        rw [← m.contains_congr (sameName_iff.mp hSame), hPresent]
      rw [Bool.or_true, contains, hKeys, hFound]
  · rw [contains, contains, List.any_append]
    simp

theorem sameName_comm (a b : String) : sameName a b = sameName b a := by
  unfold sameName
  rw [Bool.beq_comm]

theorem find?_replaced (entries : List (String × α)) (name : String) (value : α) (x : String) :
    ((entries.map fun e => if sameName e.1 name then (e.1, value) else e).find?
        fun e => sameName e.1 x).map Prod.snd =
      ((entries.find? fun e => sameName e.1 x).map Prod.snd).map
        fun old => if sameName name x then value else old := by
  induction entries with
  | nil => rfl
  | cons e entries ih =>
    obtain ⟨key, old⟩ := e
    by_cases hKey : sameName key x = true
    · have hSame : sameName key name = sameName name x := by
        rw [sameName_comm key name, sameName_congr_right (sameName_iff.mp hKey)]
      cases hName : sameName name x <;> simp [hSame, hName, hKey]
    · have hName : ((if sameName key name = true then (key, value) else (key, old)).1) = key := by
        rw [apply_ite Prod.fst, ite_self]
      rw [List.map_cons, List.find?_cons_of_neg (by rwa [hName]), ih,
        List.find?_cons_of_neg (by exact hKey)]

theorem get?_insert (m : CaselessMap α) (name : String) (value : α) (x : String) :
    (m.insert name value).get? x = if sameName name x then some value else m.get? x := by
  unfold insert
  split
  · rename_i hPresent
    rw [get?, find?_replaced]
    cases hSame : sameName name x with
    | false => simp [get?, Function.comp_def]
    | true =>
      rw [contains_eq_isSome, m.get?_congr (sameName_iff.mp hSame)] at hPresent
      obtain ⟨old, hOld⟩ := Option.isSome_iff_exists.mp hPresent
      rw [get?] at hOld
      rw [hOld]
      rfl
  · rename_i hAbsent
    cases hSame : sameName name x with
    | false => simp [get?, hSame]
    | true =>
      have hNone : m.get? x = none := by
        rw [← m.get?_congr (sameName_iff.mp hSame), ← Option.not_isSome_iff_eq_none,
          ← contains_eq_isSome]
        exact hAbsent
      have hFirst : m.entries.find? (fun e => sameName e.1 x) = none :=
        Option.map_eq_none_iff.mp hNone
      simp [get?, hFirst, hSame]

theorem exchange_eq (m : CaselessMap α) (name : String) (value : α) :
    m.exchange name value = (m.get? name, m.insert name value) := by
  unfold exchange insert
  rw [contains_eq_isSome, get?]
  cases m.entries.find? fun e => sameName e.1 name with
  | none => rfl
  | some e => rfl

theorem contains_insertAll (pairs : List (String × α)) (m : CaselessMap α) (x : String) :
    (m.insertAll pairs).contains x = (m.contains x || pairs.any fun e => sameName e.1 x) := by
  induction pairs generalizing m with
  | nil => simp [insertAll]
  | cons e pairs ih =>
    have hStep : m.insertAll (e :: pairs) = (m.insert e.1 e.2).insertAll pairs := rfl
    rw [hStep, ih, contains_insert, List.any_cons, Bool.or_assoc]

theorem contains_ofList (pairs : List (String × α)) (x : String) :
    (ofList pairs).contains x = pairs.any fun e => sameName e.1 x :=
  contains_insertAll pairs empty x

/-! Names that are different in any letter case -/

/-- No two entries have names that differ only in letter case. -/
def Distinct (m : CaselessMap α) : Prop :=
  m.entries.Pairwise fun a b => Text.lower a.1 ≠ Text.lower b.1

theorem ne_of_sameName_eq_false {a b : String} (h : sameName a b = false) :
    Text.lower a ≠ Text.lower b :=
  fun hSame => Bool.eq_false_iff.mp h (sameName_iff.mpr hSame)

theorem keys_insert_of_contains {m : CaselessMap α} {name : String} (h : m.contains name = true)
    (value : α) : (m.insert name value).keys = m.keys := by
  rw [insert, if_pos h, keys, List.map_map]
  refine List.map_congr_left fun e _ => ?_
  rw [Function.comp_apply, apply_ite Prod.fst, ite_self]

theorem entries_insert_of_not_contains {m : CaselessMap α} {name : String}
    (h : m.contains name = false) (value : α) :
    (m.insert name value).entries = m.entries ++ [(name, value)] := by
  rw [insert, if_neg (Bool.eq_false_iff.mp h)]

theorem distinct_iff_keys {m : CaselessMap α} :
    m.Distinct ↔ m.keys.Pairwise fun a b => Text.lower a ≠ Text.lower b := by
  rw [Distinct, keys, List.pairwise_map]

theorem Distinct.empty : (CaselessMap.empty : CaselessMap α).Distinct := .nil

theorem Distinct.insert {m : CaselessMap α} (h : m.Distinct) (name : String) (value : α) :
    (m.insert name value).Distinct := by
  cases hContains : m.contains name with
  | true => rwa [distinct_iff_keys, keys_insert_of_contains hContains, ← distinct_iff_keys]
  | false =>
    rw [Distinct, entries_insert_of_not_contains hContains]
    refine List.pairwise_append.mpr ⟨h, List.pairwise_singleton _ _, fun a ha b hb => ?_⟩
    rw [List.mem_singleton.mp hb]
    exact ne_of_sameName_eq_false (Bool.eq_false_iff.mpr (List.any_eq_false.mp hContains a ha))

theorem Distinct.erase {m : CaselessMap α} (h : m.Distinct) (name : String) :
    (m.erase name).Distinct :=
  h.filter _

theorem get?_erase (m : CaselessMap α) (name x : String) :
    (m.erase name).get? x = if sameName name x then none else m.get? x := by
  have hEntry : ∀ e : String × α,
      (!sameName e.1 name && sameName e.1 x) = (sameName e.1 x && !sameName name x) := by
    intro e
    cases hKey : sameName e.1 x with
    | false => rw [Bool.and_false, Bool.false_and]
    | true =>
      rw [sameName_comm e.1 name, sameName_congr_right (sameName_iff.mp hKey), Bool.and_comm]
  simp only [get?, erase, List.find?_filter, Bool.decide_and, Bool.decide_eq_true, hEntry]
  cases sameName name x with
  | true => simp
  | false => simp

theorem Distinct.get?_of_mem {m : CaselessMap α} (h : m.Distinct) {e : String × α}
    (he : e ∈ m.entries) : m.get? e.1 = some e.2 := by
  obtain ⟨before, after, hSplit⟩ := List.append_of_mem he
  rw [Distinct, hSplit, List.pairwise_append] at h
  have hNone : before.find? (fun d => sameName d.1 e.1) = none := by
    rw [List.find?_eq_none]
    intro d hd hSame
    exact h.2.2 d hd e (.head _) (sameName_iff.mp hSame)
  rw [get?, hSplit, List.find?_append, hNone, Option.none_or, List.find?_cons, sameName_self,
    Option.map_some]

theorem ofList_of_distinct {m : CaselessMap α} (h : m.Distinct) : ofList m.entries = m := by
  obtain ⟨pairs⟩ := m
  induction pairs using List.reverseRecOn with
  | nil => rfl
  | append_singleton pairs pair ih =>
    obtain ⟨hPairs, _, hLast⟩ := List.pairwise_append.mp h
    have hAbsent : contains ⟨pairs⟩ pair.1 = false := by
      rw [contains, List.any_eq_false]
      exact fun other hOther hSame =>
        hLast other hOther pair (.head _) (sameName_iff.mp hSame)
    have hInsert : ofList (pairs ++ [pair]) = (ofList pairs).insert pair.1 pair.2 :=
      List.foldl_append
    rw [hInsert, ih hPairs, insert, if_neg (Bool.eq_false_iff.mp hAbsent)]

theorem ofList_entries_append {m : CaselessMap α} (h : m.Distinct) (pairs : List (String × α)) :
    ofList (m.entries ++ pairs) = m.insertAll pairs := by
  have hAppend : ofList (m.entries ++ pairs) = (ofList m.entries).insertAll pairs :=
    List.foldl_append
  rw [hAppend, ofList_of_distinct h]

theorem keys_ofList {pairs : List (String × α)}
    (h : pairs.Pairwise fun a b => sameName a.1 b.1 = false) :
    (ofList pairs).keys = pairs.map Prod.fst := by
  have hDistinct : Distinct ⟨pairs⟩ := h.imp ne_of_sameName_eq_false
  exact congrArg keys (ofList_of_distinct hDistinct)

/-! What writing leaves -/

def addName (names : List String) (name : String) : List String :=
  if names.any fun other => sameName other name then names else names ++ [name]

theorem contains_eq_any_keys (m : CaselessMap α) (name : String) :
    m.contains name = m.keys.any fun other => sameName other name := by
  rw [contains, keys, List.any_map]
  rfl

theorem keys_insert (m : CaselessMap α) (name : String) (value : α) :
    (m.insert name value).keys = addName m.keys name := by
  rw [addName, ← contains_eq_any_keys]
  cases h : m.contains name with
  | true => rw [if_pos rfl, keys_insert_of_contains h]
  | false =>
    rw [if_neg Bool.false_ne_true, keys, entries_insert_of_not_contains h, List.map_append]
    rfl

theorem keys_insertAll (pairs : List (String × α)) (m : CaselessMap α) :
    (m.insertAll pairs).keys = (pairs.map Prod.fst).foldl addName m.keys := by
  induction pairs generalizing m with
  | nil => rfl
  | cons pair pairs ih =>
    rw [List.map_cons, List.foldl_cons, ← keys_insert m pair.1 pair.2]
    exact ih _

theorem get?_insertAll (pairs : List (String × α)) (m : CaselessMap α) (x : String) :
    (m.insertAll pairs).get? x =
      ((pairs.filter fun e => sameName e.1 x).getLast?.map Prod.snd).or (m.get? x) := by
  induction pairs generalizing m with
  | nil => rfl
  | cons e pairs ih =>
    have hStep : m.insertAll (e :: pairs) = (m.insert e.1 e.2).insertAll pairs := rfl
    rw [hStep, ih, get?_insert, List.filter_cons]
    cases sameName e.1 x with
    | false => rfl
    | true =>
      rw [if_pos rfl, if_pos rfl, List.getLast?_cons]
      cases (pairs.filter fun e => sameName e.1 x).getLast? with
      | none => rfl
      | some last => rfl

end RelPipe.CaselessMap
