import RelPipe.Proofs.Pipeline.References

/-!
The free references of expressions and filters. A fold binds two variables for its body, so these
are not free in it; every other reference of an expression is.
-/

namespace RelPipe

set_option autoImplicit false

namespace Value

def isFoldVariable (s : String) : Bool := s == "$$value" || s == "$$this"

mutual

def freeReferences : Value → List String
  | .string s => if Text.dollar s then [s] else []
  | .array items => itemFreeReferences items
  | .document [(name, argument)] =>
    if name = "$literal" then []
    else if name = "$reduce" then
      match argument with
      | .document fields => foldFreeReferences fields
      | argument => freeReferences argument
    else freeReferences argument
  | .document fields => fieldFreeReferences fields
  | _ => []
termination_by structural v => v

def itemFreeReferences : List Value → List String
  | [] => []
  | v :: rest => freeReferences v ++ itemFreeReferences rest
termination_by structural vs => vs

def fieldFreeReferences : List (String × Value) → List String
  | [] => []
  | (_, v) :: rest => freeReferences v ++ fieldFreeReferences rest
termination_by structural fields => fields

/-- The free references of a fold. Only its body may use the variables. -/
def foldFreeReferences : List (String × Value) → List String
  | [] => []
  | (name, v) :: rest =>
    (if name = "in" then (freeReferences v).filter (!isFoldVariable ·) else freeReferences v)
      ++ foldFreeReferences rest
termination_by structural fields => fields

end

theorem itemFreeReferences_eq_flatMap (items : List Value) :
    itemFreeReferences items = items.flatMap freeReferences := by
  induction items with
  | nil => rfl
  | cons v rest ih => rw [itemFreeReferences, ih, List.flatMap_cons]

theorem fieldFreeReferences_eq_flatMap (fields : List (String × Value)) :
    fieldFreeReferences fields = fields.flatMap fun field => freeReferences field.2 := by
  induction fields with
  | nil => rfl
  | cons field rest ih => rw [fieldFreeReferences, ih, List.flatMap_cons]

theorem freeReferences_of_not_fold {name : String} {argument : Value} (hLiteral : name ≠ "$literal")
    (hFold : name = "$reduce" → ∀ fields, argument ≠ .document fields) :
    (single name argument).freeReferences = argument.freeReferences := by
  cases argument with
  | document fields =>
    have hName : name ≠ "$reduce" := fun hName => hFold hName fields rfl
    exact (if_neg hLiteral).trans (if_neg hName)
  | _ => exact (if_neg hLiteral).trans (ite_self _)

theorem freeReferences_single {name : String} (h : name ≠ "$literal" ∧ name ≠ "$reduce")
    (argument : Value) : (single name argument).freeReferences = argument.freeReferences :=
  freeReferences_of_not_fold h.1 fun hName => absurd hName h.2

theorem freeReferences_literal (v : Value) : (single "$literal" v).freeReferences = [] := by
  cases v <;> rfl

theorem freeReferences_fold (fields : List (String × Value)) :
    (single "$reduce" (.document fields)).freeReferences = foldFreeReferences fields := rfl

theorem freeReferences_document {fields : List (String × Value)} (h : fields.length ≠ 1) :
    (document fields).freeReferences = fields.flatMap fun field => freeReferences field.2 := by
  match fields with
  | [] => rfl
  | [_] => exact absurd rfl h
  | first :: second :: rest => exact fieldFreeReferences_eq_flatMap (first :: second :: rest)

section

variable {r : String}

@[simp] theorem mem_freeReferences_single {name : String} (h : name ≠ "$literal" ∧ name ≠ "$reduce")
    {v : Value} : r ∈ (single name v).freeReferences ↔ r ∈ v.freeReferences := by
  rw [freeReferences_single h]

@[simp] theorem mem_freeReferences_array {items : List Value} :
    r ∈ (array items).freeReferences ↔ ∃ v ∈ items, r ∈ v.freeReferences := by
  change r ∈ itemFreeReferences items ↔ _
  rw [itemFreeReferences_eq_flatMap, List.mem_flatMap]

@[simp] theorem mem_freeReferences_apply {name : String} (h : name ≠ "$literal" ∧ name ≠ "$reduce")
    {items : List Value} :
    r ∈ (Value.apply name items).freeReferences ↔ ∃ v ∈ items, r ∈ v.freeReferences := by
  rw [Value.apply, mem_freeReferences_single h, mem_freeReferences_array]

theorem mem_freeReferences_document {fields : List (String × Value)} (h : fields.length ≠ 1) :
    r ∈ (document fields).freeReferences ↔ ∃ field ∈ fields, r ∈ field.2.freeReferences := by
  rw [freeReferences_document h, List.mem_flatMap]

/-- Unless it stands for an operator, a document refers to what its fields refer to. -/
theorem exists_of_mem_freeReferences {fields : List (String × Value)}
    (h : ∀ field ∈ fields, Text.dollar field.1 = false)
    (hr : r ∈ (document fields).freeReferences) :
    ∃ field ∈ fields, r ∈ field.2.freeReferences := by
  by_cases hLength : fields.length = 1
  · obtain ⟨⟨name, v⟩, rfl⟩ := List.length_eq_one_iff.mp hLength
    have hName : Text.dollar name = false := h _ (List.mem_singleton_self _)
    have hPlain : name ≠ "$literal" ∧ name ≠ "$reduce" := by
      constructor <;> rintro rfl <;> cases hName
    exact ⟨(name, v), List.mem_singleton_self _, (mem_freeReferences_single hPlain).mp hr⟩
  · exact (mem_freeReferences_document hLength).mp hr

theorem mem_freeReferences_string {s : String} :
    r ∈ (string s).freeReferences ↔ Text.dollar s = true ∧ r = s := by
  change r ∈ (if Text.dollar s then [s] else []) ↔ _
  split <;> simp_all

@[simp] theorem not_mem_freeReferences_null : r ∉ null.freeReferences := List.not_mem_nil

@[simp] theorem not_mem_freeReferences_int32 (n : Int32) : r ∉ (int32 n).freeReferences :=
  List.not_mem_nil

@[simp] theorem mem_freeReferences_present {v : Value} :
    r ∈ v.present.freeReferences ↔ r ∈ v.freeReferences := by
  simp [present]

@[simp] theorem mem_freeReferences_absent {v : Value} :
    r ∈ v.absent.freeReferences ↔ r ∈ v.freeReferences := by
  simp [absent]

theorem mem_foldFreeReferences_of_field {fields : List (String × Value)} {field : String × Value}
    (hField : field ∈ fields) (hr : r ∈ field.2.freeReferences) :
    r ∈ foldFreeReferences fields ∨ isFoldVariable r = true := by
  induction fields with
  | nil => cases hField
  | cons first rest ih =>
    obtain ⟨name, v⟩ := first
    rw [foldFreeReferences, List.mem_append]
    cases hField with
    | head =>
      cases hFold : isFoldVariable r with
      | true => exact .inr rfl
      | false => split <;> simp_all
    | tail _ hField =>
      obtain hr | hr := ih hField
      · exact .inl (.inr hr)
      · exact .inr hr

theorem exists_field_of_mem_references {fields : List (String × Value)}
    (hr : r ∈ (document fields).references) : ∃ field ∈ fields, r ∈ field.2.references := by
  by_cases hLength : fields.length = 1
  · obtain ⟨⟨name, v⟩, rfl⟩ := List.length_eq_one_iff.mp hLength
    change r ∈ (single name v).references at hr
    rw [references_single] at hr
    split at hr
    · cases hr
    · exact ⟨(name, v), List.mem_singleton_self _, hr⟩
  · rw [references_document hLength, List.mem_flatMap] at hr
    exact hr

/-- A reference that is not free is one of the variables of a fold. -/
theorem mem_freeReferences_of_mem_references (v : Value) (hr : r ∈ v.references) :
    r ∈ v.freeReferences ∨ isFoldVariable r = true := by
  -- By size: the fields of a fold lie two levels below it.
  induction hSize : sizeOf v using Nat.strongRecOn generalizing v with
  | ind n ih =>
    subst hSize
    cases v with
    | string s => exact .inl hr
    | array items =>
      rw [references_array, List.mem_flatMap] at hr
      obtain ⟨e, he, hr⟩ := hr
      obtain hr | hr := ih _ (sizeOf_item_lt he) e hr rfl
      · exact .inl (mem_freeReferences_array.mpr ⟨e, he, hr⟩)
      · exact .inr hr
    | document fields =>
      by_cases hLength : fields.length = 1
      · obtain ⟨⟨name, argument⟩, rfl⟩ := List.length_eq_one_iff.mp hLength
        have hArgument := sizeOf_field_lt (List.mem_singleton_self (name, argument))
        change r ∈ (single name argument).references at hr
        change r ∈ (single name argument).freeReferences ∨ _
        rw [references_single] at hr
        split at hr
        · cases hr
        · rename_i hLiteral
          by_cases hFold : ∃ fields, name = "$reduce" ∧ argument = .document fields
          · obtain ⟨fields, rfl, rfl⟩ := hFold
            obtain ⟨field, hField, hr⟩ := exists_field_of_mem_references hr
            have hLess := Nat.lt_trans (sizeOf_field_lt hField) hArgument
            rw [freeReferences_fold]
            obtain hr | hr := ih _ hLess field.2 hr rfl
            · exact mem_foldFreeReferences_of_field hField hr
            · exact .inr hr
          · rw [freeReferences_of_not_fold hLiteral fun hName fields hFields =>
              hFold ⟨fields, hName, hFields⟩]
            exact ih _ hArgument argument hr rfl
      · rw [references_document hLength, List.mem_flatMap] at hr
        obtain ⟨field, hField, hr⟩ := hr
        obtain hr | hr := ih _ (sizeOf_field_lt hField) field.2 hr rfl
        · exact .inl ((mem_freeReferences_document hLength).mpr ⟨field, hField, hr⟩)
        · exact .inr hr
    | _ => cases hr

end

end Value

namespace Pipeline

/-! Filters -/

mutual

def filterFreeReferences : List (String × Value) → List String
  | [] => []
  | (name, condition) :: rest => entryFreeReferences name condition ++ filterFreeReferences rest
termination_by structural fields => fields

def entryFreeReferences (name : String) (condition : Value) : List String :=
  match ClauseGroup.ofName? name with
  | some _ =>
    match condition with
    | .array clauses => clauseFreeReferences clauses
    | _ => []
  | none => if name = "$expr" then condition.freeReferences else ["$" ++ name]
termination_by structural condition

def clauseFreeReferences : List Value → List String
  | [] => []
  | .document fields :: rest => filterFreeReferences fields ++ clauseFreeReferences rest
  | _ :: rest => clauseFreeReferences rest
termination_by structural clauses => clauses

end

variable {r : String}

mutual

theorem mem_filterFreeReferences_of_mem (filter : List (String × Value))
    (hr : r ∈ filterReferences filter) :
    r ∈ filterFreeReferences filter ∨ Value.isFoldVariable r = true := by
  match filter with
  | [] => cases hr
  | (name, condition) :: rest =>
    rw [filterReferences, List.mem_append] at hr
    rw [filterFreeReferences, List.mem_append]
    obtain hr | hr := hr
    · exact (mem_entryFreeReferences_of_mem name condition hr).imp_left .inl
    · exact (mem_filterFreeReferences_of_mem rest hr).imp_left .inr

theorem mem_entryFreeReferences_of_mem (name : String) (condition : Value)
    (hr : r ∈ entryReferences name condition) :
    r ∈ entryFreeReferences name condition ∨ Value.isFoldVariable r = true := by
  rw [entryReferences.eq_def] at hr
  rw [entryFreeReferences.eq_def]
  cases hGroup : ClauseGroup.ofName? name with
  | some group =>
    rw [hGroup] at hr
    cases condition with
    | array clauses => exact mem_clauseFreeReferences_of_mem clauses hr
    | _ => cases hr
  | none =>
    rw [hGroup] at hr
    dsimp only at hr ⊢
    split
    · rename_i hExpr
      rw [if_pos hExpr] at hr
      exact Value.mem_freeReferences_of_mem_references condition hr
    · rename_i hExpr
      rw [if_neg hExpr] at hr
      exact .inl hr

theorem mem_clauseFreeReferences_of_mem (clauses : List Value)
    (hr : r ∈ clauseReferences clauses) :
    r ∈ clauseFreeReferences clauses ∨ Value.isFoldVariable r = true := by
  match clauses with
  | [] => cases hr
  | clause :: rest =>
    cases clause with
    | document fields =>
      rw [clauseReferences, List.mem_append] at hr
      rw [clauseFreeReferences, List.mem_append]
      obtain hr | hr := hr
      · exact (mem_filterFreeReferences_of_mem fields hr).imp_left .inl
      · exact (mem_clauseFreeReferences_of_mem rest hr).imp_left .inr
    | _ => exact mem_clauseFreeReferences_of_mem rest hr

end

end Pipeline

end RelPipe
