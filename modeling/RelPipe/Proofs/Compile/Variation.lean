import RelPipe.Proofs.Compile.Templates
import RelPipe.Proofs.Compile.WellFormed
import RelPipe.Proofs.Grouping.Requalified

/-!
Two runs of the compiler side by side. The second run is given the same statement with its
qualifiers in another letter case, or treats letter case in patterns in another way. Then its
operands and filters are those of the first run with every value turned into its counterpart, and it
fails where the first run fails, for the same cause with respelled qualifiers.
-/

namespace RelPipe

set_option autoImplicit false

def CompileError.requalify (f : String → String) : CompileError → CompileError
  | .nonConstantPattern pattern => .nonConstantPattern (pattern.requalify f)
  | .aggregateOutsideGrouping a => .aggregateOutsideGrouping (a.requalify f)
  | .unplannedSubquery a => .unplannedSubquery (a.requalify f)
  | e => e

theorem CompileError.requalify_id (e : CompileError) : e.requalify id = e := by
  cases e with
  | nonConstantPattern pattern => exact congrArg nonConstantPattern pattern.requalify_id
  | aggregateOutsideGrouping a => exact congrArg aggregateOutsideGrouping a.requalify_id
  | unplannedSubquery a => exact congrArg unplannedSubquery a.requalify_id
  | _ => rfl

theorem CompileError.requalify_requalify (f g : String → String) (e : CompileError) :
    (e.requalify f).requalify g = e.requalify (g ∘ f) := by
  cases e with
  | nonConstantPattern pattern =>
    exact congrArg nonConstantPattern (pattern.requalify_requalify f g)
  | aggregateOutsideGrouping a =>
    exact congrArg aggregateOutsideGrouping (a.requalify_requalify f g)
  | unplannedSubquery a => exact congrArg unplannedSubquery (a.requalify_requalify f g)
  | _ => rfl

theorem CompileError.ctorIdx_requalify (f : String → String) (e : CompileError) :
    (e.requalify f).ctorIdx = e.ctorIdx := by
  cases e <;> rfl

/-- How a second run of the compiler differs from a first: in the spelling of the qualifiers that it
is given, and in the values that it comes to. Values are built alike in both runs, but for the
bodies of searches. -/
structure Variation (caseSensitive caseSensitive' : Bool) where
  qualifier : String → String
  keepsCaseless : KeepsCaseless qualifier
  value : Value → Value
  value_atom {v : Value} : v.isAtom = true → value v = v
  value_array (items : List Value) : value (.array items) = .array (items.map value)
  value_document {fields : List (String × Value)} :
    (∀ e ∈ fields, e.1 = "$regexMatch" → ∀ body, e.2 ≠ .document body) →
      value (.document fields) = .document (fields.map fun e => (e.1, value e.2))
  value_matching (input : Value) (regex : List Char) :
    value (.matching caseSensitive input regex) = .matching caseSensitive' (value input) regex
  mentionsVariable_value (v : Value) : (value v).mentionsVariable = v.mentionsVariable

variable {caseSensitive caseSensitive' : Bool} (m : Variation caseSensitive caseSensitive')

namespace Variation

def Fails (e e' : CompileError) : Prop := e' = e.requalify m.qualifier

def Turns (v v' : Value) : Prop := v' = m.value v

/-- The second run follows the first: it succeeds with a related result, or fails likewise. -/
abbrev Follows {α β : Type} (R : α → β → Prop) :
    Except CompileError α → Except CompileError β → Prop :=
  Correspond m.Fails R

variable {m}

theorem value_fields {fields : List (String × Value)}
    (h : ∀ e ∈ fields, e.1 ≠ "$regexMatch") :
    m.value (.document fields) = .document (fields.map fun e => (e.1, m.value e.2)) :=
  m.value_document fun e he hName => absurd hName (h e he)

theorem value_single {name : String} (h : name ≠ "$regexMatch") (v : Value) :
    m.value (.single name v) = .single name (m.value v) :=
  value_fields (List.forall_mem_singleton.mpr h)

theorem value_apply (name : String) (items : List Value) :
    m.value (.apply name items) = .apply name (items.map m.value) := by
  have hArray : m.value (.single name (.array items)) = .single name (m.value (.array items)) := by
    refine m.value_document (List.forall_mem_singleton.mpr ?_)
    rintro - body ⟨⟩
  rw [Value.apply, hArray, m.value_array]
  rfl

theorem congruence : Value.Congruence caseSensitive caseSensitive' m.Turns where
  atom h := (m.value_atom h).symm
  array {items items'} h := by
    have hItems : items' = items.map m.value := by
      rw [← List.forall₂_eq_eq_eq, List.forall₂_map_right_iff]
      exact h.flip
    rw [Turns, m.value_array, hItems]
  document {fields fields'} h hNames := by
    have hFields : fields' = fields.map fun e => (e.1, m.value e.2) := by
      rw [← List.forall₂_eq_eq_eq, List.forall₂_map_right_iff]
      refine h.flip.imp ?_
      rintro ⟨_, _⟩ ⟨name, v⟩ ⟨rfl, rfl⟩
      rfl
    rw [Turns, value_fields fun e he => (hNames e he).2, hFields]
  matching {input input'} regex h := by
    rw [Turns, m.value_matching, h]

end Variation

/-! Documents -/

/-- The fields of the second run are those of the first, turned one by one. No field is the body of
a search. -/
structure Document.Varies (d d' : Document) : Prop where
  fields : d' = d.map fun e => (e.1, m.value e.2)
  searches : ∀ e ∈ d, e.1 = "$regexMatch" → ∀ body, e.2 ≠ .document body

namespace Document.Varies

variable {m} {d d' : Document}

theorem turns (h : Document.Varies m d d') : m.Turns (.document d) (.document d') := by
  rw [Variation.Turns, m.value_document h.searches, h.fields]

theorem nil : Document.Varies m [] [] := ⟨rfl, List.forall_mem_nil _⟩

theorem cons {name : String} {v v' : Value} (hName : name ≠ "$regexMatch") (hv : m.Turns v v')
    (h : Document.Varies m d d') : Document.Varies m ((name, v) :: d) ((name, v') :: d') where
  fields := by rw [List.map_cons, ← h.fields, hv]
  searches := List.forall_mem_cons.mpr ⟨fun hSearch => absurd hSearch hName, h.searches⟩

theorem single {name : String} {v v' : Value} (hName : name ≠ "$regexMatch") (hv : m.Turns v v') :
    Document.Varies m [(name, v)] [(name, v')] :=
  .cons hName hv .nil

end Document.Varies

/-! Operands -/

/-- The operand that the second run comes to. -/
inductive Operand.Varies : Operand → Operand → Prop where
  | field (path : String) : Varies (.field path) (.field path)
  | constant {v : Value} (h : v.isAtom = true) : Varies (.constant v) (.constant v)
  | computed (v : Value) : Varies (.computed v) (.computed (m.value v))

namespace Operand.Varies

variable {m} {o o' left left' right right' test test' low low' high high' : Operand}

theorem render (h : o.Varies m o') : o'.render = m.value o.render := by
  cases h with
  | field path => exact (m.value_atom rfl).symm
  | computed v => rfl
  | @constant v hv =>
    cases v with
    | string s =>
      rw [Operand.render, Value.quoted]
      split
      · rw [Variation.value_single (by decide), m.value_atom hv]
      · rw [m.value_atom hv]
    | _ => exact (m.value_atom hv).symm

theorem of_turns {v v' : Value} (h : m.Turns v v') :
    Operand.Varies m (.computed v) (.computed v') := by
  rw [h]
  exact .computed v

theorem isField (h : o.Varies m o') : o.isField = o'.isField := by
  cases h <;> rfl

theorem isConstant (h : o.Varies m o') : o.isConstant = o'.isConstant := by
  cases h <;> rfl

theorem constant? (h : o.Varies m o') : o.constant? = o'.constant? := by
  cases h <;> rfl

theorem fieldName? (h : o.Varies m o') : o.fieldName? = o'.fieldName? := by
  cases h <;> rfl

theorem isAtom_constant? (h : o.Varies m o') {v : Value} (hv : o.constant? = some v) :
    v.isAtom = true := by
  cases h with
  | constant h =>
    cases hv
    exact h
  | _ => cases hv

theorem guards (op : BinaryOp) (hl : left.Varies m left') (hr : right.Varies m right') :
    guards op left' right' = (guards op left right).map m.value := by
  have hPresent : ∀ {o o' : Operand}, o.Varies m o' →
      o'.render.present = m.value o.render.present := by
    intro o o' h
    simp only [Value.present, Variation.value_apply, List.map_cons, List.map_nil, h.render,
      m.value_atom (v := .null) rfl]
  unfold RelPipe.guards
  split
  · rw [List.filter_cons, List.filter_cons, List.filter_cons, List.filter_cons, hl.isField,
      hr.isField]
    split <;> split <;> simp [hPresent hl, hPresent hr]
  · rfl

theorem comparison (op : BinaryOp) (hl : left.Varies m left') (hr : right.Varies m right') :
    comparison op left' right' = m.value (comparison op left right) := by
  unfold RelPipe.comparison
  dsimp only
  rw [guards op hl hr, hl.render, hr.render]
  cases RelPipe.guards op left right with
  | nil => simp only [List.map_nil, Variation.value_apply, List.map_cons]
  | cons guard guards => simp only [List.map_cons, Variation.value_apply, List.map_nil]

theorem rangeComparison (ht : test.Varies m test') (hl : low.Varies m low')
    (hh : high.Varies m high') :
    rangeComparison test' low' high' = m.value (rangeComparison test low high) := by
  simp only [RelPipe.rangeComparison, Variation.value_apply, List.map_cons, List.map_nil,
    ht.comparison .greaterOrEqual hl, ht.comparison .lessOrEqual hh]

theorem membership {candidates candidates' : List Operand} (hl : left.Varies m left')
    (hc : List.Forall₂ (Varies m) candidates candidates') :
    Value.apply "$in" [left'.render, .array (candidates'.map Operand.render)] =
      m.value (.apply "$in" [left.render, .array (candidates.map Operand.render)]) := by
  have hItems : candidates'.map Operand.render = (candidates.map Operand.render).map m.value := by
    induction hc with
    | nil => rfl
    | cons h _ ih => simp only [List.map_cons, ih, h.render]
  simp only [Variation.value_apply, List.map_cons, List.map_nil, m.value_array, hItems, hl.render]

theorem unary (op : UnaryOp) (h : o.Varies m o') : (op.apply o).Varies m (op.apply o') := by
  cases op with
  | plus => exact h
  | bitwiseNot =>
    refine .of_turns ?_
    rw [Variation.Turns, Variation.value_single (by decide), h.render]
  | not =>
    refine .of_turns ?_
    rw [Variation.Turns, Variation.value_apply, h.render]
    rfl
  | minus =>
    refine .of_turns ?_
    rw [Variation.Turns, Variation.value_apply, h.render, List.map_cons,
      m.value_atom (v := .int32 _) rfl]
    rfl
  | isNull =>
    refine .of_turns ?_
    simp only [Variation.Turns, Value.absent, Variation.value_apply, List.map_cons, List.map_nil,
      h.render, m.value_atom (v := .null) rfl]

theorem binary (op : BinaryOp) (hl : left.Varies m left') (hr : right.Varies m right') :
    (op.apply left right).Varies m (op.apply left' right') := by
  unfold BinaryOp.apply
  split
  · exact .of_turns (hl.comparison op hr)
  · refine .of_turns ?_
    rw [Variation.Turns, Variation.value_apply, hl.render, hr.render]
    rfl

end Operand.Varies

/-! Filters -/

/-- The filter that the second run comes to. A native test of a field is the same in both runs. -/
inductive Filter.Varies : Filter → Filter → Prop where
  | computed (v : Value) : Varies (.computed v) (.computed (m.value v))
  | comparison {field : String} (hField : Text.dollar field = false) (op : BinaryOp) {v : Value}
    (hv : v.isAtom = true) : Varies (.comparison field op v) (.comparison field op v)
  | range {field : String} (hField : Text.dollar field = false) {low high : Value}
    (hLow : low.isAtom = true) (hHigh : high.isAtom = true) :
    Varies (.range field low high) (.range field low high)
  | among {field : String} (hField : Text.dollar field = false) {values : List Value}
    (hValues : ∀ v ∈ values, v.isAtom = true) : Varies (.among field values) (.among field values)
  | group (op : GroupOp) {clauses clauses' : List Filter}
    (hLength : clauses.length = clauses'.length)
    (h : ∀ f f', (f, f') ∈ clauses.zip clauses' → Varies f f') :
    Varies (.group op clauses) (.group op clauses')
  | negation {f f' : Filter} (h : Varies f f') : Varies (.negation f) (.negation f')

namespace Filter.Varies

variable {m} {f f' : Filter}

theorem of_turns {v v' : Value} (h : m.Turns v v') :
    Filter.Varies m (.computed v) (.computed v') := by
  rw [h]
  exact .computed v

theorem fieldExpression (field : String) (op : BinaryOp) {v : Value} (hv : v.isAtom = true) :
    Filter.fieldExpression field op v = m.value (Filter.fieldExpression field op v) := by
  rw [fieldExpression_eq_comparison]
  exact Operand.Varies.comparison op (.field _) (.constant hv)

theorem toExpression (h : f.Varies m f') : f'.toExpression = m.value f.toExpression := by
  induction h with
  | computed v => rfl
  | @comparison field hField op v hv => exact fieldExpression field op hv
  | @range field hField low high hLow hHigh =>
    simp only [Filter.toExpression, Variation.value_apply, List.map_cons, List.map_nil,
      ← fieldExpression field _ hLow, ← fieldExpression field _ hHigh]
  | @among field hField values hValues =>
    have hQuoted : (values.map Value.quoted).map m.value = values.map Value.quoted := by
      rw [List.map_map]
      refine List.map_congr_left fun v hv => ?_
      exact (Operand.Varies.render (.constant (hValues v hv))).symm
    simp only [Filter.toExpression, Variation.value_apply, List.map_cons, List.map_nil,
      m.value_array, hQuoted, m.value_atom (v := .string _) rfl]
  | group op hLength _ ih =>
    rw [Filter.toExpression, Filter.toExpression, toExpressions_eq_map, toExpressions_eq_map,
      Variation.value_apply, List.map_map]
    refine congrArg (Value.apply op.operator) ?_
    rw [← List.forall₂_eq_eq_eq, List.forall₂_map_left_iff, List.forall₂_map_right_iff]
    refine List.Forall₂.flip (List.forall₂_iff_zip.mpr ⟨hLength, fun hMem => ?_⟩)
    exact ih _ _ hMem
  | negation _ ih =>
    simp only [Filter.toExpression, Variation.value_apply, List.map_cons, List.map_nil, ih]

theorem toDocument (h : f.Varies m f') : Document.Varies m f.toDocument f'.toDocument := by
  have hPlain : ∀ {field : String}, Text.dollar field = false → field ≠ "$regexMatch" := by
    rintro _ hField rfl
    revert hField
    decide
  induction h with
  | computed v => exact .single (by decide) rfl
  | @comparison field hField op v hv =>
    have hOperator : m.value (.single op.operator v) = .single op.operator v := by
      rw [Value.single, m.value_document, List.map_singleton, m.value_atom hv]
      rintro e he - body hBody
      obtain rfl := List.mem_singleton.mp he
      obtain rfl : v = .document body := hBody
      cases hv
    cases op with
    | equal => exact .single (hPlain hField) (m.value_atom hv).symm
    | _ => exact .single (hPlain hField) hOperator.symm
  | @range field hField low high hLow hHigh =>
    refine .single (hPlain hField) ?_
    rw [Variation.Turns, Variation.value_fields (by simp)]
    simp only [List.map_cons, List.map_nil, m.value_atom hLow, m.value_atom hHigh]
  | @among field hField values hValues =>
    have hItems : values.map m.value = values := by
      conv_rhs => rw [← List.map_id values]
      exact List.map_congr_left fun v hv => m.value_atom (hValues v hv)
    refine .single (hPlain hField) ?_
    rw [Variation.Turns, Variation.value_single (by decide), m.value_array, hItems]
  | @group op clauses clauses' hLength _ ih =>
    refine .single (by cases op <;> decide) ?_
    rw [Variation.Turns, m.value_array, toDocuments_eq_map, toDocuments_eq_map]
    refine congrArg Value.array ?_
    rw [← List.forall₂_eq_eq_eq]
    simp only [List.forall₂_map_left_iff, List.forall₂_map_right_iff]
    refine List.Forall₂.flip (List.forall₂_iff_zip.mpr ⟨hLength, fun hMem => ?_⟩)
    exact (ih _ _ hMem).turns
  | @negation f f' _ ih =>
    refine .single (by decide) ?_
    rw [Variation.Turns, m.value_array, List.map_singleton, ← ih.turns]

theorem needsExpression (h : f.Varies m f') : f.needsExpression = f'.needsExpression := by
  -- The clause of a negation may be computed, so that its value counts too.
  have hMentions : Value.fieldsMentionVariable f.toDocument =
      Value.fieldsMentionVariable f'.toDocument := by
    have hDocument := m.mentionsVariable_value (.document f.toDocument)
    rw [← h.toDocument.turns] at hDocument
    exact hDocument.symm
  cases h with
  | computed => rfl
  | _ => exact hMentions

variable {left left' right right' test test' low low' high high' : Operand}

theorem ofComparison (op : BinaryOp) (hl : left.Varies m left') (hr : right.Varies m right') :
    (Filter.ofComparison op left right).Varies m (.ofComparison op left' right') := by
  have hComputed : Filter.Varies m (.computed (RelPipe.comparison op left right))
      (.computed (RelPipe.comparison op left' right')) := .of_turns (hl.comparison op hr)
  unfold Filter.ofComparison ofComparison?
  rw [← hl.constant?, ← hr.constant?, ← hl.fieldName?, ← hr.fieldName?]
  split
  · rename_i field v hName hValue
    exact .comparison (Operand.eq_field_of_fieldName? hName).2 op (hr.isAtom_constant? hValue)
  · split
    · rename_i field v hName hValue
      exact .comparison (Operand.eq_field_of_fieldName? hName).2 _ (hl.isAtom_constant? hValue)
    · exact hComputed

theorem ofRange (ht : test.Varies m test') (hl : low.Varies m low') (hh : high.Varies m high') :
    (Filter.ofRange test low high).Varies m (.ofRange test' low' high') := by
  unfold Filter.ofRange
  rw [← ht.fieldName?, ← hl.constant?, ← hh.constant?]
  split
  · rename_i hName hLow hHigh
    exact .range (Operand.eq_field_of_fieldName? hName).2 (hl.isAtom_constant? hLow)
      (hh.isAtom_constant? hHigh)
  · exact .of_turns (ht.rangeComparison hl hh)

theorem ofMembership {candidates candidates' : List Operand} (hl : left.Varies m left')
    (hc : List.Forall₂ (Operand.Varies m) candidates candidates') :
    (Filter.ofMembership left candidates).Varies m (.ofMembership left' candidates') := by
  have hComputed := Filter.Varies.of_turns (hl.membership hc)
  have hConstants : candidates.all Operand.isConstant = candidates'.all Operand.isConstant ∧
      candidates.filterMap Operand.constant? = candidates'.filterMap Operand.constant? ∧
      ∀ v ∈ candidates.filterMap Operand.constant?, v.isAtom = true := by
    clear hComputed
    induction hc with
    | nil => exact ⟨rfl, rfl, List.forall_mem_nil _⟩
    | @cons o o' os os' h _ ih =>
      refine ⟨by simp [h.isConstant, ih], by simp [List.filterMap_cons, h.constant?, ih], ?_⟩
      intro v hv
      obtain ⟨c, hMem, hc⟩ := List.mem_filterMap.mp hv
      obtain rfl | hMem := List.mem_cons.mp hMem
      · exact h.isAtom_constant? hc
      · exact ih.2.2 v (List.mem_filterMap.mpr ⟨c, hMem, hc⟩)
  obtain ⟨hAll, hValues, hAtoms⟩ := hConstants
  unfold Filter.ofMembership
  rw [← hl.fieldName?, ← hAll, ← hValues]
  split
  · rename_i field hName
    split
    · exact .among (Operand.eq_field_of_fieldName? hName).2 hAtoms
    · exact hComputed
  · exact hComputed

theorem ofGroup? (op : GroupOp) {clauses clauses' : List Filter}
    (h : List.Forall₂ (Filter.Varies m) clauses clauses') :
    Option.Rel (Filter.Varies m) (Filter.ofGroup? op clauses) (Filter.ofGroup? op clauses') := by
  have hNeeds : clauses.any Filter.needsExpression = clauses'.any Filter.needsExpression :=
    any_eq_of_forall₂ (h.imp fun _ _ hClause => hClause.needsExpression)
  have hExpressions : Value.apply op.operator (toExpressions clauses') =
      m.value (.apply op.operator (toExpressions clauses)) := by
    rw [toExpressions_eq_map, toExpressions_eq_map, Variation.value_apply, List.map_map]
    refine congrArg _ ?_
    rw [← List.forall₂_eq_eq_eq, List.forall₂_map_left_iff, List.forall₂_map_right_iff]
    exact (h.imp fun _ _ hClause => hClause.toExpression).flip
  have hEmpty : clauses.isEmpty = clauses'.isEmpty := by cases h <;> rfl
  obtain ⟨hLength, hClauses⟩ := List.forall₂_iff_zip.mp h
  unfold Filter.ofGroup?
  rw [← hEmpty, ← hNeeds]
  split
  · exact .none
  · split
    · exact .some (.of_turns hExpressions)
    · exact .some (.group op hLength fun _ _ hMem => hClauses hMem)

end Filter.Varies

end RelPipe
