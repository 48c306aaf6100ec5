import RelPipe.Pipeline.Query
import RelPipe.Proofs.Filter.Native

/-!
What expressions and filters refer to. A string that begins with a dollar sign is a reference,
except under `$literal`, and a filter refers to the fields that it puts conditions on. Nothing else
of its environment has a say in what an expression evaluates to or in what a filter accepts.
-/

namespace RelPipe

set_option autoImplicit false

namespace Value

mutual

def references : Value → List String
  | .string s => if Text.dollar s then [s] else []
  | .array items => itemReferences items
  | .document [(name, argument)] => if name = "$literal" then [] else references argument
  | .document fields => fieldReferences fields
  | _ => []
termination_by structural v => v

def itemReferences : List Value → List String
  | [] => []
  | v :: rest => references v ++ itemReferences rest
termination_by structural vs => vs

def fieldReferences : List (String × Value) → List String
  | [] => []
  | (_, v) :: rest => references v ++ fieldReferences rest
termination_by structural fields => fields

end

theorem itemReferences_eq_flatMap (items : List Value) :
    itemReferences items = items.flatMap references := by
  induction items with
  | nil => rfl
  | cons v rest ih => rw [itemReferences, ih, List.flatMap_cons]

theorem fieldReferences_eq_flatMap (fields : List (String × Value)) :
    fieldReferences fields = fields.flatMap fun field => references field.2 := by
  induction fields with
  | nil => rfl
  | cons field rest ih => rw [fieldReferences, ih, List.flatMap_cons]

@[simp] theorem references_array (items : List Value) :
    references (.array items) = items.flatMap references :=
  itemReferences_eq_flatMap items

theorem references_single (name : String) (argument : Value) :
    references (.single name argument) =
      if name = "$literal" then [] else argument.references := rfl

theorem references_document {fields : List (String × Value)} (h : fields.length ≠ 1) :
    references (.document fields) = fields.flatMap fun field => references field.2 := by
  match fields with
  | [] => rfl
  | [_] => exact absurd rfl h
  | first :: second :: rest => exact fieldReferences_eq_flatMap (first :: second :: rest)

theorem mem_references_of_field {fields : List (String × Value)} {field : String × Value}
    (hField : field ∈ fields) (hKey : field.1 ≠ "$literal") {r : String}
    (hr : r ∈ references field.2) : r ∈ references (.document fields) := by
  by_cases hLength : fields.length = 1
  · obtain ⟨only, rfl⟩ := List.length_eq_one_iff.mp hLength
    obtain rfl := List.mem_singleton.mp hField
    change r ∈ references (.single field.1 field.2)
    rwa [references_single, if_neg hKey]
  · rw [references_document hLength]
    exact List.mem_flatMap.mpr ⟨field, hField, hr⟩

theorem sizeOf_item_lt {items : List Value} {e : Value} (h : e ∈ items) :
    sizeOf e < sizeOf (Value.array items) := by
  have hSize := List.sizeOf_lt_of_mem h
  simp only [array.sizeOf_spec]
  omega

theorem sizeOf_field_lt {fields : List (String × Value)} {field : String × Value}
    (h : field ∈ fields) : sizeOf field.2 < sizeOf (Value.document fields) := by
  have hSize := List.sizeOf_lt_of_mem h
  obtain ⟨key, v⟩ := field
  simp only [Prod.mk.sizeOf_spec, document.sizeOf_spec] at hSize ⊢
  omega

end Value

namespace Pipeline

variable {env env' : Environment}

theorem evaluateEach_congr {items : List Value}
    (h : ∀ e ∈ items, evaluate env e = evaluate env' e) :
    evaluateEach env items = evaluateEach env' items := by
  induction items with
  | nil => rfl
  | cons e rest ih =>
    obtain ⟨hFirst, hRest⟩ := List.forall_mem_cons.mp h
    rw [evaluateEach, evaluateEach, hFirst, ih hRest]

theorem evaluateAll_congr {items : List Value}
    (h : ∀ e ∈ items, evaluate env e = evaluate env' e) :
    evaluateAll env items = evaluateAll env' items := by
  induction items with
  | nil => rfl
  | cons e rest ih =>
    obtain ⟨hFirst, hRest⟩ := List.forall_mem_cons.mp h
    rw [evaluateAll, evaluateAll, hFirst, ih hRest]

theorem evaluateAny_congr {items : List Value}
    (h : ∀ e ∈ items, evaluate env e = evaluate env' e) :
    evaluateAny env items = evaluateAny env' items := by
  induction items with
  | nil => rfl
  | cons e rest ih =>
    obtain ⟨hFirst, hRest⟩ := List.forall_mem_cons.mp h
    rw [evaluateAny, evaluateAny, hFirst, ih hRest]

theorem evaluateFields_congr {fields : List (String × Value)}
    (h : ∀ field ∈ fields, evaluate env field.2 = evaluate env' field.2) :
    evaluateFields env fields = evaluateFields env' fields := by
  induction fields with
  | nil => rfl
  | cons field rest ih =>
    obtain ⟨hFirst, hRest⟩ := List.forall_mem_cons.mp h
    rw [evaluateFields, evaluateFields, hFirst, ih hRest]

theorem evaluateField_congr {name : String} (hName : name ≠ "$literal")
    {fields : List (String × Value)}
    (h : ∀ field ∈ fields, field.1 ≠ "$literal" → evaluate env field.2 = evaluate env' field.2) :
    evaluateField env name fields = evaluateField env' name fields := by
  induction fields with
  | nil => rfl
  | cons field rest ih =>
    obtain ⟨hFirst, hRest⟩ := List.forall_mem_cons.mp h
    rw [evaluateField, evaluateField, ih hRest]
    split
    · rename_i hKey
      exact hFirst (hKey ▸ hName)
    · rfl

/-- The values that an operator reads from its argument: the argument, its items and its fields. -/
inductive Reads : Value → Value → Prop where
  | argument (v : Value) : Reads v v
  | item {items : List Value} {e : Value} (h : e ∈ items) : Reads (.array items) e
  | field {fields : List (String × Value)} {field : String × Value} (h : field ∈ fields)
    (hKey : field.1 ≠ "$literal") : Reads (.document fields) field.2

theorem Reads.sizeOf_le {v e : Value} (h : Reads v e) : sizeOf e ≤ sizeOf v := by
  cases h with
  | argument => exact Nat.le_refl _
  | item he => exact Nat.le_of_lt (Value.sizeOf_item_lt he)
  | field hField => exact Nat.le_of_lt (Value.sizeOf_field_lt hField)

theorem Reads.mem_references {v e : Value} (h : Reads v e) {r : String} (hr : r ∈ e.references) :
    r ∈ v.references := by
  cases h with
  | argument => exact hr
  | item he => simpa using ⟨e, he, hr⟩
  | field hField hKey => exact Value.mem_references_of_field hField hKey hr

theorem evaluate_single_congr (name : String) {argument : Value}
    (h : ∀ e, Reads argument e → evaluate env e = evaluate env' e) :
    evaluate env (.single name argument) = evaluate env' (.single name argument) := by
  have hArgument := h argument (.argument argument)
  have hItems : ∀ items, argument = .array items →
      ∀ e ∈ items, evaluate env e = evaluate env' e := by
    rintro items rfl e he
    exact h e (.item he)
  have hField : ∀ fields, argument = .document fields → ∀ key, key ≠ "$literal" →
      evaluateField env key fields = evaluateField env' key fields := by
    rintro fields rfl key hKey
    exact evaluateField_congr hKey fun field hField hKey => h field.2 (.field hField hKey)
  rw [Value.single]
  conv_lhs => rw [evaluate.eq_def]
  conv_rhs => rw [evaluate.eq_def]
  dsimp only
  cases hDollar : Text.dollar name with
  | false => rw [if_neg Bool.false_ne_true, if_neg Bool.false_ne_true, hArgument]
  | true =>
    rw [if_pos rfl, if_pos rfl]
    cases hOperator : Operator.ofName? name with
    | none => rfl
    | some op =>
      cases op with
      | literal => rfl
      | all =>
        cases argument with
        | array items => simp only [evaluateAll_congr (hItems items rfl)]
        | _ => simp only [hArgument]
      | any =>
        cases argument with
        | array items => simp only [evaluateAny_congr (hItems items rfl)]
        | _ => simp only [hArgument]
      | choice =>
        cases argument with
        | array items =>
          have hItems := hItems items rfl
          obtain _ | ⟨condition, _ | ⟨first, _ | ⟨second, _ | _⟩⟩⟩ := items
          · rfl
          · rfl
          · rfl
          · simp only [hItems condition (by simp), hItems first (by simp),
              hItems second (by simp)]
          · rfl
        | document fields => simp (disch := decide) only [hField fields rfl]
        | _ => rfl
      | trim side =>
        cases argument with
        | document fields => simp (disch := decide) only [hField fields rfl]
        | _ => rfl
      | search =>
        cases argument with
        | document fields => simp (disch := decide) only [hField fields rfl]
        | _ => rfl
      | onValues op =>
        cases argument with
        | array items => simp only [evaluateEach_congr (hItems items rfl)]
        | _ => simp only [hArgument]

/-- The value of an expression depends on what it refers to and on nothing else. -/
theorem evaluate_congr (v : Value)
    (h : ∀ r ∈ v.references, env.reference r = env'.reference r) :
    evaluate env v = evaluate env' v := by
  -- By size, since an operator reads the items and the fields of its argument as well.
  induction hSize : sizeOf v using Nat.strongRecOn generalizing v with
  | ind n ih =>
    subst hSize
    cases v with
    | string s =>
      rw [evaluate, evaluate]
      cases hDollar : Text.dollar s with
      | false => rw [reference_of_not_dollar hDollar, reference_of_not_dollar hDollar]
      | true => rw [h s (by simp [Value.references, hDollar])]
    | array items =>
      have hItems : ∀ e ∈ items, evaluate env e = evaluate env' e := by
        intro e he
        exact ih _ (Value.sizeOf_item_lt he) e (fun r hr => h r (by simpa using ⟨e, he, hr⟩)) rfl
      rw [evaluate, evaluate, evaluateEach_congr hItems]
    | document fields =>
      obtain _ | ⟨⟨name, argument⟩, _ | ⟨second, rest⟩⟩ := fields
      · rfl
      · by_cases hName : name = "$literal"
        · subst hName
          rfl
        rw [← Value.single, Value.references_single, if_neg hName] at h
        have hArgument := Value.sizeOf_field_lt (List.mem_singleton_self (name, argument))
        refine evaluate_single_congr name fun e hReads => ?_
        exact ih _ (Nat.lt_of_le_of_lt hReads.sizeOf_le hArgument) e
          (fun r hr => h r (hReads.mem_references hr)) rfl
      · rw [Value.references_document (by simp)] at h
        have hFields : ∀ field ∈ (name, argument) :: second :: rest,
            evaluate env field.2 = evaluate env' field.2 := by
          intro field hField
          exact ih _ (Value.sizeOf_field_lt hField) field.2
            (fun r hr => h r (List.mem_flatMap.mpr ⟨field, hField, hr⟩)) rfl
        rw [evaluate, evaluate, evaluateFields_congr hFields]
        · simp
        · simp
    | _ => rfl

/-! Filters -/

mutual

def filterReferences : List (String × Value) → List String
  | [] => []
  | (name, condition) :: rest => entryReferences name condition ++ filterReferences rest
termination_by structural fields => fields

def entryReferences (name : String) (condition : Value) : List String :=
  match ClauseGroup.ofName? name with
  | some _ =>
    match condition with
    | .array clauses => clauseReferences clauses
    | _ => []
  | none => if name = "$expr" then condition.references else ["$" ++ name]
termination_by structural condition

def clauseReferences : List Value → List String
  | [] => []
  | .document fields :: rest => filterReferences fields ++ clauseReferences rest
  | _ :: rest => clauseReferences rest
termination_by structural clauses => clauses

end

/-- What a reference leads to. A field that is not there leads nowhere. -/
def Environment.lookup? (env : Environment) (s : String) : Option Value :=
  match s.toList with
  | '$' :: '$' :: reference => some (env.variableAt reference)
  | '$' :: path => env.document.path? (String.ofList path)
  | _ => some (.string s)

theorem Environment.reference_eq_lookup? (env : Environment) (s : String) :
    env.reference s = (env.lookup? s).getD .undefined := by
  unfold reference lookup?
  split <;> simp only [*, Option.getD_some]

theorem Environment.lookup?_field (env : Environment) {name : String}
    (h : Text.dollar name = false) : env.lookup? ("$" ++ name) = env.document.path? name := by
  unfold lookup?
  rw [Text.toList_dollar_append]
  split
  · rename_i hs
    simp only [List.cons.injEq, true_and] at hs
    simp [Text.dollar, hs] at h
  · rename_i hs
    simp only [List.cons.injEq, true_and] at hs
    rw [← hs, String.ofList_toList]
  · rename_i hPath
    exact absurd rfl (hPath _)

mutual

/-- What a filter accepts depends on what it refers to and on nothing else. -/
theorem satisfies_congr (filter : List (String × Value))
    (h : ∀ r ∈ filterReferences filter, env.lookup? r = env'.lookup? r) :
    satisfies env filter = satisfies env' filter := by
  match filter with
  | [] => rfl
  | (name, condition) :: rest =>
    rw [filterReferences, List.forall_mem_append] at h
    rw [satisfies, satisfies, satisfiesEntry_congr name condition h.1, satisfies_congr rest h.2]

theorem satisfiesEntry_congr (name : String) (condition : Value)
    (h : ∀ r ∈ entryReferences name condition, env.lookup? r = env'.lookup? r) :
    satisfiesEntry env name condition = satisfiesEntry env' name condition := by
  rw [entryReferences.eq_def] at h
  rw [satisfiesEntry.eq_def, satisfiesEntry.eq_def]
  cases hGroup : ClauseGroup.ofName? name with
  | some group =>
    rw [hGroup] at h
    cases condition with
    | array clauses => simp only [satisfiesEach_congr clauses h]
    | _ => rfl
  | none =>
    rw [hGroup] at h
    dsimp only at h ⊢
    split
    · rename_i hExpr
      rw [if_pos hExpr] at h
      rw [evaluate_congr condition fun r hr => ?_]
      rw [Environment.reference_eq_lookup?, Environment.reference_eq_lookup?, h r hr]
    · rename_i hExpr
      rw [if_neg hExpr] at h
      cases hDollar : Text.dollar name with
      | true => rfl
      | false =>
        have hField := h _ (List.mem_singleton.mpr rfl)
        rw [env.lookup?_field hDollar, env'.lookup?_field hDollar] at hField
        rw [hField]

theorem satisfiesEach_congr (clauses : List Value)
    (h : ∀ r ∈ clauseReferences clauses, env.lookup? r = env'.lookup? r) :
    satisfiesEach env clauses = satisfiesEach env' clauses := by
  match clauses with
  | [] => rfl
  | clause :: rest =>
    cases clause with
    | document fields =>
      rw [clauseReferences, List.forall_mem_append] at h
      rw [satisfiesEach, satisfiesEach, satisfies_congr fields h.1, satisfiesEach_congr rest h.2]
    | _ => exact satisfiesEach_congr rest h

end

end Pipeline

end RelPipe
