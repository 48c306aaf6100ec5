import RelPipe.Proofs.Projection.Varied

/-!
The letter case of patterns. A compiler that ignores it says so in each search, at any depth of a
plan. One that minds it comes to the same plan without these options, and it fails where the other
one fails.
-/

namespace RelPipe

set_option autoImplicit false

namespace Value

def ignoringCase : String × Value := ("options", .string "i")

def searchBody (caseSensitive : Bool) (input : Value) (regex : List Char) : Document :=
  [("input", input), ("regex", .string (String.ofList regex))] ++
    if caseSensitive then [] else [ignoringCase]

/-- The value of a field, with its entries rewritten if it is the body of a search. -/
def onSearch (f : Document → Document) (name : String) : Value → Value
  | .document body => .document (if name = "$regexMatch" then f body else body)
  | v => v

mutual

/-- The value with the body of each search rewritten, at any depth, inner searches first. -/
def onSearches (f : Document → Document) : Value → Value
  | .array items => .array (itemsOnSearches f items)
  | .document fields => .document (fieldsOnSearches f fields)
  | v => v
termination_by structural v => v

def itemsOnSearches (f : Document → Document) : List Value → List Value
  | [] => []
  | v :: rest => v.onSearches f :: itemsOnSearches f rest
termination_by structural items => items

def fieldsOnSearches (f : Document → Document) : List (String × Value) → List (String × Value)
  | [] => []
  | (name, v) :: rest => (name, onSearch f name (v.onSearches f)) :: fieldsOnSearches f rest
termination_by structural fields => fields

end

def mindingCase : Value → Value := onSearches fun body => body.filter fun e => e ≠ ignoringCase

/-- The value holds a search with this body, at some depth. -/
inductive HasSearch (body : Document) : Value → Prop where
  | here {fields : List (String × Value)} (h : ("$regexMatch", .document body) ∈ fields) :
    HasSearch body (.document fields)
  | field {fields : List (String × Value)} {name : String} {v : Value} (hField : (name, v) ∈ fields)
    (h : HasSearch body v) : HasSearch body (.document fields)
  | item {items : List Value} {v : Value} (hItem : v ∈ items) (h : HasSearch body v) :
    HasSearch body (.array items)

variable {f : Document → Document}

theorem onSearch_of_ne {name : String} (h : name ≠ "$regexMatch") (v : Value) :
    onSearch f name v = v := by
  cases v with
  | document => rw [onSearch, if_neg h]
  | _ => rfl

theorem itemsOnSearches_eq (items : List Value) :
    itemsOnSearches f items = items.map (onSearches f) := by
  induction items with
  | nil => rfl
  | cons v items ih => rw [itemsOnSearches, ih, List.map_cons]

theorem fieldsOnSearches_eq (fields : List (String × Value)) :
    fieldsOnSearches f fields = fields.map fun e => (e.1, onSearch f e.1 (e.2.onSearches f)) := by
  induction fields with
  | nil => rfl
  | cons e fields ih => rw [fieldsOnSearches, ih, List.map_cons]

theorem onSearches_of_isAtom {v : Value} (h : v.isAtom = true) : v.onSearches f = v := by
  cases v with
  | array | document => cases h
  | _ => rfl

/-- Fields that are no bodies of searches keep their entries. -/
theorem onSearches_document {fields : List (String × Value)}
    (h : ∀ e ∈ fields, e.1 = "$regexMatch" → ∀ body, e.2 ≠ .document body) :
    (document fields).onSearches f = .document (fields.map fun e => (e.1, e.2.onSearches f)) := by
  rw [onSearches, fieldsOnSearches_eq]
  refine congrArg Value.document (List.map_congr_left fun e he => ?_)
  obtain ⟨name, v⟩ := e
  cases v with
  | document body =>
    have hName : name ≠ "$regexMatch" := fun hName => h _ he hName body rfl
    exact congrArg (Prod.mk name) (onSearch_of_ne hName _)
  | _ => rfl

theorem onSearches_matching {caseSensitive caseSensitive' : Bool}
    (h : ∀ input regex, f (searchBody caseSensitive input regex) =
      searchBody caseSensitive' input regex) (input : Value) (regex : List Char) :
    (matching caseSensitive input regex).onSearches f =
      matching caseSensitive' (input.onSearches f) regex := by
  have hBody : fieldsOnSearches f (searchBody caseSensitive input regex) =
      searchBody caseSensitive (input.onSearches f) regex := by
    rw [fieldsOnSearches_eq]
    cases caseSensitive <;> simp [searchBody, ignoringCase, onSearch_of_ne, onSearches]
  change Value.document [("$regexMatch", onSearch f "$regexMatch"
    (.document (fieldsOnSearches f (searchBody caseSensitive input regex))))] = _
  rw [hBody, onSearch, if_pos rfl, h]
  rfl

/-! What mentions no variable may be taken out of searches or put into them. -/

mutual

theorem mentionsVariable_onSearches
    (h : ∀ body, fieldsMentionVariable (f body) = fieldsMentionVariable body) (v : Value) :
    (v.onSearches f).mentionsVariable = v.mentionsVariable := by
  match v with
  | .array items => exact itemsMentionVariable_onSearches h items
  | .document fields => exact fieldsMentionVariable_onSearches h fields
  | .null | .undefined | .minKey | .maxKey | .boolean _ | .int32 _ | .int64 _ | .double _
  | .decimal _ | .string _ | .symbol _ | .code _ | .scopedCode _ _ | .date _ | .timestamp _ _
  | .objectId _ | .pointer _ _ | .binary _ _ | .regex _ _ => rfl
termination_by structural v

theorem itemsMentionVariable_onSearches
    (h : ∀ body, fieldsMentionVariable (f body) = fieldsMentionVariable body) (items : List Value) :
    itemsMentionVariable (itemsOnSearches f items) = itemsMentionVariable items := by
  match items with
  | [] => rfl
  | v :: items =>
    rw [itemsOnSearches, itemsMentionVariable, itemsMentionVariable,
      mentionsVariable_onSearches h v, itemsMentionVariable_onSearches h items]
termination_by structural items

theorem fieldsMentionVariable_onSearches
    (h : ∀ body, fieldsMentionVariable (f body) = fieldsMentionVariable body)
    (fields : List (String × Value)) :
    fieldsMentionVariable (fieldsOnSearches f fields) = fieldsMentionVariable fields := by
  match fields with
  | [] => rfl
  | (name, v) :: fields =>
    have hSearch : ∀ v : Value, (onSearch f name v).mentionsVariable = v.mentionsVariable := by
      intro v
      cases v with
      | document body =>
        rw [onSearch]
        split
        · exact h body
        · rfl
      | _ => rfl
    rw [fieldsOnSearches, fieldsMentionVariable, fieldsMentionVariable,
      fieldsMentionVariable_onSearches h fields, hSearch, mentionsVariable_onSearches h v]
termination_by structural fields

end

theorem fieldsMentionVariable_filter (body : Document) :
    fieldsMentionVariable (body.filter fun e => e ≠ ignoringCase) = fieldsMentionVariable body := by
  rw [fieldsMentionVariable_eq, fieldsMentionVariable_eq, List.any_filter]
  refine congrArg body.any (funext fun e => ?_)
  by_cases h : e = ignoringCase
  · rw [h]
    decide
  · rw [decide_eq_true h, Bool.true_and]

theorem fieldsMentionVariable_insert (body : Document) :
    fieldsMentionVariable (List.insert ignoringCase body) =
      fieldsMentionVariable body := by
  rw [fieldsMentionVariable_eq, fieldsMentionVariable_eq, List.any_insert]
  exact Bool.false_or _

/-! If bodies only gain atoms when they are rewritten, then every search of a rewritten value has a
rewritten body. -/

/-- An entry of a rewritten document is new, and then it is an atom, or it is an entry rewritten. -/
theorem mem_onSearch (h : ∀ body, ∀ e ∈ f body, e ∈ body ∨ e.2.isAtom = true) {name : String}
    {v : Value} {fields : List (String × Value)}
    (hFields : onSearch f name (v.onSearches f) = .document fields)
    {e : String × Value} (he : e ∈ fields) :
    e.2.isAtom = true ∨ ∃ v₀ : Value, e.2 = onSearch f e.1 (v₀.onSearches f) := by
  cases v with
  | document fields₀ =>
    rw [onSearches, onSearch] at hFields
    cases hFields
    have hOld : e ∈ fieldsOnSearches f fields₀ ∨ e.2.isAtom = true := by
      split at he
      · exact h _ _ he
      · exact .inl he
    refine hOld.symm.imp id fun hMem => ?_
    rw [fieldsOnSearches_eq] at hMem
    obtain ⟨e₀, -, rfl⟩ := List.mem_map.mp hMem
    exact ⟨e₀.2, rfl⟩
  | _ => cases hFields

theorem HasSearch.exists_of_onSearch (h : ∀ body, ∀ e ∈ f body, e ∈ body ∨ e.2.isAtom = true)
    {body : Document} {w : Value} (hSearch : w.HasSearch body) {name : String} {v : Value}
    (hw : onSearch f name (v.onSearches f) = w) : ∃ body₀, f body₀ = body := by
  induction hSearch generalizing name v with
  | here hBody =>
    obtain hAtom | ⟨v₀, hSame⟩ := mem_onSearch h hw hBody
    · cases hAtom
    · generalize v₀.onSearches f = v₁ at hSame
      cases v₁ with
      | document body₀ =>
        rw [onSearch, if_pos rfl] at hSame
        exact ⟨body₀, (document.inj hSame).symm⟩
      | _ => cases hSame
  | field hField hSearch ih =>
    obtain hAtom | ⟨v₀, hSame⟩ := mem_onSearch h hw hField
    · cases hSearch <;> cases hAtom
    · exact ih hSame.symm
  | item hItem _ ih =>
    cases v with
    | array items =>
      have hItems : itemsOnSearches f items = _ := array.inj hw
      rw [itemsOnSearches_eq] at hItems
      subst hItems
      obtain ⟨v₀, -, rfl⟩ := List.mem_map.mp hItem
      -- An item stands under no name, so any but that of a search will do.
      exact ih (onSearch_of_ne (by decide : "" ≠ "$regexMatch") _)
    | _ => cases hw

theorem HasSearch.exists_of_onSearches (h : ∀ body, ∀ e ∈ f body, e ∈ body ∨ e.2.isAtom = true)
    {body : Document} {v : Value} (hSearch : (v.onSearches f).HasSearch body) :
    ∃ body₀, f body₀ = body :=
  hSearch.exists_of_onSearch h (onSearch_of_ne (by decide : "" ≠ "$regexMatch") _)

end Value

/-- Two runs with the same qualifiers, where the second writes the bodies of searches otherwise. -/
def Variation.onSearches {caseSensitive caseSensitive' : Bool} (f : Document → Document)
    (hMentions : ∀ body, Value.fieldsMentionVariable (f body) = Value.fieldsMentionVariable body)
    (hBody : ∀ input regex, f (Value.searchBody caseSensitive input regex) =
      Value.searchBody caseSensitive' input regex) : Variation caseSensitive caseSensitive' where
  qualifier := id
  keepsCaseless _ := rfl
  value := Value.onSearches f
  value_atom := Value.onSearches_of_isAtom
  value_array items := congrArg Value.array (Value.itemsOnSearches_eq items)
  value_document := Value.onSearches_document
  value_matching := Value.onSearches_matching hBody
  mentionsVariable_value := Value.mentionsVariable_onSearches hMentions

def Variation.mindingCase : Variation false true :=
  .onSearches (fun body => body.filter fun e => e ≠ Value.ignoringCase)
    Value.fieldsMentionVariable_filter fun input regex => by
      simp [Value.searchBody, Value.ignoringCase]

def Variation.ignoringCase : Variation false false :=
  .onSearches (List.insert Value.ignoringCase)
    Value.fieldsMentionVariable_insert fun _ _ =>
      List.insert_of_mem (List.mem_append_right _ (List.mem_singleton_self _))

/-- The plan with the option to ignore letter case taken out of every search. -/
def Plan.mindingCase (p : Plan) : Plan :=
  ⟨p.collection, p.stages.map fun stage => ⟨stage.kind, stage.body.mindingCase⟩⟩

/-- Some stage of the plan holds a search with this body, at some depth. -/
def Plan.HasSearch (p : Plan) (body : Document) : Prop :=
  ∃ stage ∈ p.stages, stage.body.HasSearch body

theorem Statement.compile_vary {caseSensitive caseSensitive' : Bool}
    (m : Variation caseSensitive caseSensitive') (h : m.qualifier = id) (s : Statement) :
    s.compile caseSensitive' =
      (s.compile caseSensitive).map fun (plan, ctx) => (plan.vary m, ctx) := by
  have hSame : s.requalify m.qualifier = s := by rw [h, s.requalify_id]
  have hFollows := s.follows_compile m (by rw [hSame])
  rw [hSame] at hFollows
  revert hFollows
  generalize s.compile caseSensitive = x, s.compile caseSensitive' = x'
  intro hFollows
  cases hFollows with
  | ok hs =>
    obtain ⟨hPlan, hContext⟩ := hs
    rw [h, Context.requalify_id] at hContext
    exact congrArg Except.ok (Prod.ext hPlan hContext)
  | error he =>
    refine congrArg Except.error (he.trans ?_)
    rw [h, CompileError.requalify_id]

/-- Whether letter case is significant shows in the options of searches only. With significant
letter case a statement fails for the same cause, or its plan is the same without the option that
each of the searches carries otherwise, and its context is the same. -/
theorem Statement.compile_mindingCase (s : Statement) :
    (s.compile true = (s.compile false).map fun (plan, ctx) => (plan.mindingCase, ctx)) ∧
      ∀ plan ctx, s.compile false = .ok (plan, ctx) →
        ∀ body, plan.HasSearch body → ("options", .string "i") ∈ body := by
  refine ⟨s.compile_vary .mindingCase rfl, ?_⟩
  intro plan ctx h body hSearch
  -- A plan of this run stays as it is when each search is given the option.
  have hSame := s.compile_vary .ignoringCase rfl
  rw [h] at hSame
  have hPlan : plan = plan.vary .ignoringCase := congrArg Prod.fst (Except.ok.inj hSame)
  rw [hPlan] at hSearch
  obtain ⟨stage, hStage, hBody⟩ := hSearch
  obtain ⟨stage₀, -, rfl⟩ := List.mem_map.mp hStage
  have hEntries : ∀ body : Document, ∀ e ∈ List.insert Value.ignoringCase body,
      e ∈ body ∨ e.2.isAtom = true := by
    intro body e he
    obtain rfl | he := List.mem_insert_iff.mp he
    · exact .inr rfl
    · exact .inl he
  obtain ⟨body₀, rfl⟩ := Value.HasSearch.exists_of_onSearches hEntries hBody
  exact List.mem_insert_self

/-- The people with a name in A, if there is a letter about news. -/
def newsReaders : Statement :=
  { Statement.empty with
    table := "People"
    aliasName := some "p"
    operands := [⟨.column ⟨some "p", "Name", .string⟩, some "name"⟩]
    condition := some (.group .and
      [.binary .like (.column ⟨some "p", "Name", .string⟩) (.constant (.string "A%")),
       .aggregate ⟨.exists, none, some
        { Statement.empty with
          table := "Letters"
          aliasName := some "l"
          condition := some (.binary .like (.column ⟨some "l", "Title", .string⟩)
            (.constant (.string "%news%"))) }⟩]) }

def newsReadersPlan (options : Document) : Plan :=
  let search (input regex : String) : Value := .single "$regexMatch"
    (.document ([("input", .string input), ("regex", .string regex)] ++ options))
  ⟨"People",
    [⟨.lookup, .document [("from", .string "Letters"), ("as", .string "SubAgg0"),
      ("pipeline", .array
        [.single "$match" (.single "$expr" (search "$Title" "^.*news.*$")),
         .single "$group" (.document [("_id", .null), ("agg", .single "$sum" (.int32 1))]),
         .single "$project" (.single "value" (.apply "$gt" [.string "$agg", .int32 0]))])]⟩,
     ⟨.unwind, .document [("path", .string "$SubAgg0"),
      ("preserveNullAndEmptyArrays", .boolean true)]⟩,
     ⟨.addFields, .single "SubAgg0"
      (.apply "$ifNull" [.string "$SubAgg0.value", .boolean false])⟩,
     ⟨.filter, .single "$expr" (.apply "$and" [search "$Name" "^A.*$", .string "$SubAgg0"])⟩,
     ⟨.project, .document [("_id", .int32 0), ("name", .string "$Name")]⟩]⟩

theorem Statement.compile_mindingCase_newsReaders :
    ∃ ctx, newsReaders.compile false = .ok (newsReadersPlan [("options", .string "i")], ctx) ∧
      newsReaders.compile true = .ok (newsReadersPlan [], ctx) ∧
      (∀ body, (newsReadersPlan [("options", .string "i")]).HasSearch body →
        ("options", .string "i") ∈ body) ∧
      (newsReadersPlan [("options", .string "i")]).HasSearch [("input", .string "$Title"),
        ("regex", .string "^.*news.*$"), ("options", .string "i")] := by
  have hIgnoring : ∃ ctx, newsReaders.compile false =
      .ok (newsReadersPlan [("options", .string "i")], ctx) := ⟨_, rfl⟩
  obtain ⟨ctx, hIgnoring⟩ := hIgnoring
  obtain ⟨hMinding, hSearches⟩ := newsReaders.compile_mindingCase
  refine ⟨ctx, hIgnoring, ?_, hSearches _ ctx hIgnoring, ?_⟩
  · rw [hMinding, hIgnoring]
    rfl
  · -- The search of the subquery stands in the pipeline of the first stage.
    refine ⟨_, List.mem_cons_self, ?_⟩
    exact .field (.tail _ (.tail _ (.head _))) (.item (.head _)
      (.field (.head _) (.field (.head _) (.here (.head _)))))

end RelPipe
