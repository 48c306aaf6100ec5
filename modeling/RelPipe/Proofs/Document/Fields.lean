import Mathlib.Data.List.Nodup
import RelPipe.Document.Value

/-!
Writing and erasing fields, and reading paths. What is written under one name leaves all others as
they are, so a path reads the same as long as its first name does.
-/

namespace RelPipe

set_option autoImplicit false

namespace Fields

variable {α : Type}

@[simp] theorem insert_insert_self (fields : Fields α) (name : String) (v w : α) :
    insert (insert fields name v) name w = insert fields name w := by
  induction fields with
  | nil => simp [insert]
  | cons field fields ih =>
    obtain ⟨key, old⟩ := field
    by_cases h : key = name <;> simp [insert, h, ih]

@[simp] theorem erase_insert_self (fields : Fields α) (name : String) (v : α) :
    erase (insert fields name v) name = erase fields name := by
  induction fields with
  | nil => simp [insert, erase]
  | cons field fields ih =>
    obtain ⟨key, old⟩ := field
    by_cases h : key = name <;> simp [insert, erase, h, ih]

theorem get?_erase_of_ne (fields : Fields α) {name other : String} (h : name ≠ other) :
    get? (erase fields name) other = get? fields other := by
  induction fields with
  | nil => rfl
  | cons field fields ih =>
    obtain ⟨key, old⟩ := field
    by_cases hKey : key = name
    · subst hKey
      rw [erase, if_pos rfl, get?_cons, if_neg h]
    · rw [erase, if_neg hKey, get?_cons, get?_cons, ih]

theorem get?_eq_none_of_not_mem {fields : Fields α} {name : String}
    (h : name ∉ fields.map Prod.fst) : get? fields name = none := by
  induction fields with
  | nil => rfl
  | cons field fields ih =>
    obtain ⟨key, old⟩ := field
    rw [List.map_cons, List.mem_cons, not_or] at h
    rw [get?_cons, if_neg (Ne.symm h.1), ih h.2]

theorem mem_of_get? {fields : Fields α} {name : String} {v : α} (h : get? fields name = some v) :
    (name, v) ∈ fields := by
  induction fields with
  | nil => cases h
  | cons field fields ih =>
    obtain ⟨key, old⟩ := field
    rw [get?_cons] at h
    split at h
    · rename_i hKey
      cases h
      exact hKey ▸ .head _
    · exact .tail _ (ih h)

def Distinct (fields : Fields α) : Prop := (fields.map Prod.fst).Nodup

instance (fields : Fields α) : Decidable (Distinct fields) :=
  inferInstanceAs (Decidable (fields.map Prod.fst).Nodup)

theorem get?_of_mem {fields : Fields α} (hDistinct : Distinct fields) {name : String} {value : α}
    (h : (name, value) ∈ fields) : get? fields name = some value := by
  induction fields with
  | nil => cases h
  | cons field fields ih =>
    obtain ⟨key, old⟩ := field
    obtain ⟨hHead, hTail⟩ := List.nodup_cons.mp hDistinct
    rw [get?_cons]
    cases h with
    | head => exact if_pos rfl
    | tail _ h =>
      have hKey : key ≠ name := by
        rintro rfl
        exact hHead (List.mem_map.mpr ⟨_, h, rfl⟩)
      rw [if_neg hKey, ih hTail h]

theorem mem_names_insert {fields : Fields α} {name other : String} {v : α} :
    other ∈ (insert fields name v).map Prod.fst ↔ other ∈ fields.map Prod.fst ∨ other = name := by
  induction fields with
  | nil => simp [insert]
  | cons field fields ih =>
    obtain ⟨key, old⟩ := field
    by_cases hKey : key = name
    · subst hKey
      simp only [insert, ↓reduceIte, List.map_cons, List.mem_cons]
      tauto
    · simp only [insert, if_neg hKey, List.map_cons, List.mem_cons, ih]
      tauto

theorem Distinct.insert {fields : Fields α} (h : Distinct fields) (name : String) (v : α) :
    Distinct (insert fields name v) := by
  induction fields with
  | nil => simp [Distinct, Fields.insert]
  | cons field fields ih =>
    obtain ⟨key, old⟩ := field
    obtain ⟨hHead, hTail⟩ := List.nodup_cons.mp h
    by_cases hKey : key = name
    · rw [Fields.insert, if_pos hKey]
      exact h
    · rw [Fields.insert, if_neg hKey]
      refine List.nodup_cons.mpr ⟨?_, ih hTail⟩
      rw [mem_names_insert, not_or]
      exact ⟨hHead, hKey⟩

theorem erase_sublist (fields : Fields α) (name : String) : (erase fields name).Sublist fields := by
  induction fields with
  | nil => exact .slnil
  | cons field fields ih =>
    obtain ⟨key, old⟩ := field
    by_cases hKey : key = name
    · rw [erase, if_pos hKey]
      exact .cons _ (.refl _)
    · rw [erase, if_neg hKey]
      exact .cons_cons _ ih

theorem Distinct.erase {fields : Fields α} (h : Distinct fields) (name : String) :
    Distinct (erase fields name) :=
  h.sublist ((erase_sublist fields name).map _)

theorem Distinct.get?_erase_self {fields : Fields α} (h : Distinct fields) (name : String) :
    get? (Fields.erase fields name) name = none := by
  induction fields with
  | nil => rfl
  | cons field fields ih =>
    obtain ⟨key, old⟩ := field
    obtain ⟨hHead, hTail⟩ := List.nodup_cons.mp h
    by_cases hKey : key = name
    · subst hKey
      rw [Fields.erase, if_pos rfl]
      exact get?_eq_none_of_not_mem hHead
    · rw [Fields.erase, if_neg hKey, get?_cons, if_neg hKey, ih hTail]

theorem erase_of_not_mem {fields : Fields α} {name : String} (h : name ∉ fields.map Prod.fst) :
    erase fields name = fields := by
  induction fields with
  | nil => rfl
  | cons field fields ih =>
    obtain ⟨key, old⟩ := field
    rw [List.map_cons, List.mem_cons, not_or] at h
    rw [erase, if_neg (Ne.symm h.1), ih h.2]

theorem Distinct.erase_erase_self {fields : Fields α} (h : Distinct fields) (name : String) :
    Fields.erase (Fields.erase fields name) name = Fields.erase fields name := by
  induction fields with
  | nil => rfl
  | cons field fields ih =>
    obtain ⟨key, old⟩ := field
    obtain ⟨hHead, hTail⟩ := List.nodup_cons.mp h
    by_cases hKey : key = name
    · subst hKey
      rw [Fields.erase, if_pos rfl, erase_of_not_mem hHead]
    · rw [Fields.erase, if_neg hKey, Fields.erase, if_neg hKey, ih hTail]

end Fields

theorem Text.pieces_of_not_mem {sep : Char} {cs : List Char} (h : sep ∉ cs) :
    pieces sep cs = [cs] := by
  induction cs with
  | nil => rfl
  | cons c cs ih =>
    rw [List.mem_cons, not_or] at h
    rw [pieces, if_neg (Ne.symm h.1), ih h.2]

theorem Text.pieces_append {sep : Char} {cs : List Char} (h : sep ∉ cs) (rest : List Char) :
    pieces sep (cs ++ sep :: rest) = cs :: pieces sep rest := by
  induction cs with
  | nil => rw [List.nil_append, pieces, if_pos rfl]
  | cons c cs ih =>
    rw [List.mem_cons, not_or] at h
    rw [List.cons_append, pieces, if_neg (Ne.symm h.1), ih h.2]

theorem pathSegments_of_plain {name : String} (h : '.' ∉ name.toList) :
    pathSegments name = [name] := by
  rw [pathSegments, Text.pieces_of_not_mem h, List.map_singleton, String.ofList_toList]

theorem pathSegments_dotted {name : String} (h : '.' ∉ name.toList) (path : String) :
    pathSegments (name ++ "." ++ path) = name :: pathSegments path := by
  have hChars : (name ++ "." ++ path).toList = name.toList ++ '.' :: path.toList := by
    rw [String.toList_append, String.toList_append, List.append_assoc]
    rfl
  rw [pathSegments, hChars, Text.pieces_append h, List.map_cons, String.ofList_toList]
  rfl

theorem pathSegments_ne_nil (path : String) : pathSegments path ≠ [] := by
  rw [pathSegments, ne_eq, List.map_eq_nil_iff]
  exact Text.pieces_ne_nil '.' path.toList

namespace Document

theorem path?_of_plain (d : Document) {name : String} (h : '.' ∉ name.toList) :
    d.path? name = Fields.get? d name := by
  rw [path?, pathSegments_of_plain h, at?]

theorem path?_dotted (d : Document) {name : String} (h : '.' ∉ name.toList) (path : String) :
    d.path? (name ++ "." ++ path) =
      match Fields.get? d name with
      | some (.document nested) => path? nested path
      | _ => none := by
  rw [path?, pathSegments_dotted h]
  obtain ⟨segment, segments, hSegments⟩ := List.exists_cons_of_ne_nil (pathSegments_ne_nil path)
  have hNested : ∀ nested : Document, path? nested path = at? nested (segment :: segments) := by
    intro nested
    rw [path?, hSegments]
  rw [hSegments, at?]
  · cases Fields.get? d name with
    | none => rfl
    | some v =>
      cases v with
      | document nested => exact (hNested nested).symm
      | _ => rfl
  · simp

theorem path?_congr {d d' : Document} {path : String}
    (h : ∀ name, (pathSegments path).head? = some name → Fields.get? d name = Fields.get? d' name) :
    d.path? path = d'.path? path := by
  obtain ⟨segment, segments, hSegments⟩ := List.exists_cons_of_ne_nil (pathSegments_ne_nil path)
  have hFirst : Fields.get? d segment = Fields.get? d' segment := h segment (by rw [hSegments]; rfl)
  rw [path?, path?, hSegments]
  cases segments with
  | nil => exact hFirst
  | cons next segments => rw [at?, at?, hFirst] <;> simp

end Document

end RelPipe
