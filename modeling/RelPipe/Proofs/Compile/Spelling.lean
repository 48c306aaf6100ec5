import RelPipe.Proofs.Compile.References
import RelPipe.Proofs.Text.Lowering

/-!
Compiled forms that differ in spelling only. Two paths are alike if they are the same but for the
column or property at their end, which they may spell in two ways that fold to one name. Values,
operands and filters are alike if they differ in the spelling of paths and of the fields that are
tested natively, and in nothing else: operators and constants are the same. All that expressions are
compiled with keeps alike what is alike.
-/

namespace RelPipe

set_option autoImplicit false

/-! Paths -/

/-- Two spellings of one path. -/
inductive PathAlike : String → String → Prop where
  | same (path : String) : PathAlike path path
  | ends (start : String) {name name' : String} (h : foldName name = foldName name') :
    PathAlike ("$" ++ start ++ ColumnName.normalize name)
      ("$" ++ start ++ ColumnName.normalize name')

theorem dollar_normalize_of_foldName {name name' : String} (h : foldName name = foldName name') :
    Text.dollar (ColumnName.normalize name) = Text.dollar (ColumnName.normalize name') := by
  calc Text.dollar (ColumnName.normalize name)
    _ = Text.dollar (foldName name) := (Text.dollar_lower _).symm
    _ = Text.dollar (foldName name') := by rw [h]
    _ = Text.dollar (ColumnName.normalize name') := Text.dollar_lower _

theorem Text.dollar_append_congr (start : String) {s s' : String} (h : dollar s = dollar s') :
    dollar (start ++ s) = dollar (start ++ s') := by
  unfold dollar at h ⊢
  rw [String.toList_append, String.toList_append]
  cases start.toList with
  | nil => exact h
  | cons c cs => rfl

theorem Text.doubleDollar_dollar_append (s : String) : doubleDollar ("$" ++ s) = dollar s := by
  rw [doubleDollar, dollar, toList_dollar_append]
  cases s.toList with
  | nil => rfl
  | cons c cs => simp [List.isPrefixOf, Bool.beq_comm]

theorem PathAlike.doubleDollar {path path' : String} (h : PathAlike path path') :
    Text.doubleDollar path = Text.doubleDollar path' := by
  cases h with
  | same => rfl
  | ends start h =>
    rw [String.append_assoc, String.append_assoc, Text.doubleDollar_dollar_append,
      Text.doubleDollar_dollar_append]
    exact Text.dollar_append_congr start (dollar_normalize_of_foldName h)

/-- Two spellings of a field that is tested natively, which has a path but is no operator. -/
structure KeyAlike (field field' : String) : Prop where
  plain : Text.dollar field = false
  path : PathAlike ("$" ++ field) ("$" ++ field')

/-! Values -/

/-- Values that differ in the spelling of paths only. A quoted text is no path. -/
inductive Value.Alike : Value → Value → Prop where
  | same (v : Value) : Alike v v
  | path {path path' : String} (h : PathAlike path path') : Alike (.string path) (.string path')
  | array {items items' : List Value} (hLength : items.length = items'.length)
    (h : ∀ v v', (v, v') ∈ items.zip items' → Alike v v') : Alike (.array items) (.array items')
  | document {fields fields' : List (String × Value)}
    (hNames : fields.map Prod.fst = fields'.map Prod.fst)
    (hQuoted : ∀ f f', (f, f') ∈ fields.zip fields' → f.1 = "$literal" → f.2 = f'.2)
    (h : ∀ f f', (f, f') ∈ fields.zip fields' → Alike f.2 f'.2) :
    Alike (.document fields) (.document fields')

inductive FieldAlike : String × Value → String × Value → Prop where
  | intro {name : String} {v v' : Value} (hName : name ≠ "$literal") (h : v.Alike v') :
    FieldAlike (name, v) (name, v')

@[simp] theorem fieldAlike_iff {name : String} {v v' : Value} :
    FieldAlike (name, v) (name, v') ↔ name ≠ "$literal" ∧ v.Alike v' := by
  constructor
  · rintro ⟨hName, h⟩
    exact ⟨hName, h⟩
  · rintro ⟨hName, h⟩
    exact .intro hName h

namespace Value.Alike

attribute [simp] same

theorem items {items items' : List Value} (h : List.Forall₂ Alike items items') :
    Alike (.array items) (.array items') := by
  obtain ⟨hLength, hItems⟩ := List.forall₂_iff_zip.mp h
  exact .array hLength fun _ _ hMem => hItems hMem

theorem fields {fields fields' : List (String × Value)}
    (h : List.Forall₂ FieldAlike fields fields') : Alike (.document fields) (.document fields') := by
  obtain ⟨_, hFields⟩ := List.forall₂_iff_zip.mp h
  refine .document ?_ ?_ ?_
  · rw [← List.forall₂_eq_eq_eq, List.forall₂_map_left_iff, List.forall₂_map_right_iff]
    refine h.imp ?_
    rintro _ _ ⟨_, _⟩
    rfl
  · intro f f' hMem hQuoted
    obtain ⟨hName, _⟩ := hFields hMem
    exact absurd hQuoted hName
  · intro f f' hMem
    obtain ⟨_, h⟩ := hFields hMem
    exact h

theorem single {name : String} {v v' : Value} (hName : name ≠ "$literal") (h : Alike v v') :
    Alike (.single name v) (.single name v') :=
  fields (.cons (.intro hName h) .nil)

theorem apply {name : String} {items items' : List Value} (hName : name ≠ "$literal")
    (h : List.Forall₂ Alike items items') : Alike (.apply name items) (.apply name items') :=
  single hName (Alike.items h)

end Value.Alike

theorem Value.itemsMentionVariable_eq (items : List Value) :
    itemsMentionVariable items = items.any mentionsVariable := by
  induction items with
  | nil => rfl
  | cons v items ih => rw [itemsMentionVariable, ih, List.any_cons]

theorem Value.fieldsMentionVariable_eq (fields : List (String × Value)) :
    fieldsMentionVariable fields = fields.any fun f => f.2.mentionsVariable := by
  induction fields with
  | nil => rfl
  | cons f fields ih => rw [fieldsMentionVariable, ih, List.any_cons]

theorem any_eq_of_forall₂ {α β : Type} {p : α → Bool} {q : β → Bool} {as : List α}
    {bs : List β} (h : List.Forall₂ (fun a b => p a = q b) as bs) : as.any p = bs.any q := by
  induction h with
  | nil => rfl
  | cons h _ ih => rw [List.any_cons, List.any_cons, h, ih]

theorem Value.Alike.mentionsVariable {v v' : Value} (h : v.Alike v') :
    v.mentionsVariable = v'.mentionsVariable := by
  induction h with
  | same => rfl
  | path h => exact h.doubleDollar
  | array hLength _ ih =>
    rw [Value.mentionsVariable, Value.mentionsVariable, itemsMentionVariable_eq,
      itemsMentionVariable_eq]
    exact any_eq_of_forall₂ (List.forall₂_iff_zip.mpr ⟨hLength, fun hMem => ih _ _ hMem⟩)
  | document hNames _ _ ih =>
    have hLength := congrArg List.length hNames
    rw [List.length_map, List.length_map] at hLength
    rw [Value.mentionsVariable, Value.mentionsVariable, fieldsMentionVariable_eq,
      fieldsMentionVariable_eq]
    exact any_eq_of_forall₂ (List.forall₂_iff_zip.mpr ⟨hLength, fun hMem => ih _ _ hMem⟩)

theorem Value.Alike.present {v v' : Value} (h : v.Alike v') : v.present.Alike v'.present :=
  .apply (by decide) (by simp [h])

theorem Value.Alike.absent {v v' : Value} (h : v.Alike v') : v.absent.Alike v'.absent := by
  have hValue : (Value.apply "$ifNull" [v, .null]).Alike (.apply "$ifNull" [v', .null]) :=
    .apply (by decide) (by simp [h])
  exact .apply (by decide) (by simp [hValue])

/-! Operands -/

/-- Operands of one kind that differ in spelling only. -/
inductive Operand.Alike : Operand → Operand → Prop where
  | field {path path' : String} (h : PathAlike path path') : Alike (.field path) (.field path')
  | constant (v : Value) : Alike (.constant v) (.constant v)
  | computed {v v' : Value} (h : v.Alike v') : Alike (.computed v) (.computed v')

theorem Operand.fieldName?_dollar_append (s : String) :
    (Operand.field ("$" ++ s)).fieldName? = if Text.dollar s then none else some s := by
  rw [fieldName?, Text.doubleDollar_dollar_append, Text.toList_dollar_append]
  simp [Text.afterStart?]

namespace Operand.Alike

variable {o o' left left' right right' test test' low low' high high' : Operand}

theorem refl (o : Operand) : o.Alike o := by
  cases o with
  | field path => exact .field (.same path)
  | constant v => exact .constant v
  | computed v => exact .computed (.same v)

theorem render (h : o.Alike o') : o.render.Alike o'.render := by
  cases h with
  | field h => exact .path h
  | constant v => exact .same _
  | computed h => exact h

theorem isField (h : o.Alike o') : o.isField = o'.isField := by
  cases h <;> rfl

theorem isConstant (h : o.Alike o') : o.isConstant = o'.isConstant := by
  cases h <;> rfl

theorem constant? (h : o.Alike o') : o.constant? = o'.constant? := by
  cases h <;> rfl

theorem fieldName? (h : o.Alike o') : Option.Rel KeyAlike o.fieldName? o'.fieldName? := by
  cases h with
  | constant => exact .none
  | computed => exact .none
  | field h =>
    cases h with
    | same =>
      rename_i path
      cases hName : (Operand.field path).fieldName? with
      | none => exact .none
      | some name => exact .some ⟨(eq_field_of_fieldName? hName).2, .same _⟩
    | ends start h =>
      -- Two spellings of one name both begin with a dollar sign or neither does, so a variable is
      -- never taken for a field.
      have hPath := PathAlike.ends start h
      have hDollar := Text.dollar_append_congr start (dollar_normalize_of_foldName h)
      rw [String.append_assoc, String.append_assoc] at hPath ⊢
      rw [fieldName?_dollar_append, fieldName?_dollar_append, ← hDollar]
      split
      · exact .none
      · rename_i hPlain
        exact .some ⟨Bool.eq_false_iff.mpr hPlain, hPath⟩

theorem guards (op : BinaryOp) (hl : left.Alike left') (hr : right.Alike right') :
    List.Forall₂ Value.Alike (guards op left right) (guards op left' right') := by
  unfold RelPipe.guards
  split
  · have hLeft := hl.render.present
    have hRight := hr.render.present
    rw [List.filter_cons, List.filter_cons, List.filter_cons, List.filter_cons, hl.isField,
      hr.isField]
    split <;> split <;> simp [hLeft, hRight]
  · exact .nil

theorem comparison (op : BinaryOp) (hl : left.Alike left') (hr : right.Alike right') :
    (comparison op left right).Alike (comparison op left' right') := by
  have hPlain : (Value.apply op.operator [left.render, right.render]).Alike
      (.apply op.operator [left'.render, right'.render]) :=
    .apply op.operator_plain.1 (by simp [hl.render, hr.render])
  -- Operands that are alike are of one kind, so there are as many guards on both sides.
  have hGuards := guards op hl hr
  unfold RelPipe.comparison
  dsimp only
  generalize RelPipe.guards op left right = gs at hGuards ⊢
  generalize RelPipe.guards op left' right' = gs' at hGuards ⊢
  cases hGuards with
  | nil => exact hPlain
  | cons h hRest => exact .apply (by decide) (.cons hPlain (.cons h hRest))

theorem rangeComparison (ht : test.Alike test') (hl : low.Alike low') (hh : high.Alike high') :
    (rangeComparison test low high).Alike (rangeComparison test' low' high') :=
  .apply (by decide)
    (by simp [ht.comparison .greaterOrEqual hl, ht.comparison .lessOrEqual hh])

theorem membership {candidates candidates' : List Operand} (hl : left.Alike left')
    (hc : List.Forall₂ Alike candidates candidates') :
    (Value.apply "$in" [left.render, .array (candidates.map Operand.render)]).Alike
      (.apply "$in" [left'.render, .array (candidates'.map Operand.render)]) := by
  have hItems : (Value.array (candidates.map Operand.render)).Alike
      (.array (candidates'.map Operand.render)) :=
    .items (List.rel_map (fun _ _ h => h.render) hc)
  exact .apply (by decide) (by simp [hl.render, hItems])

theorem unary (op : UnaryOp) (h : o.Alike o') : (op.apply o).Alike (op.apply o') := by
  cases op with
  | plus => exact h
  | isNull => exact .computed h.render.absent
  | bitwiseNot => exact .computed (.single (by decide) h.render)
  | not | minus => exact .computed (.apply (by decide) (by simp [h.render]))

theorem binary (op : BinaryOp) (hl : left.Alike left') (hr : right.Alike right') :
    (op.apply left right).Alike (op.apply left' right') := by
  unfold BinaryOp.apply
  split
  · exact .computed (hl.comparison op hr)
  · exact .computed (.apply op.operator_plain.1 (by simp [hl.render, hr.render]))

end Operand.Alike

/-! Filters -/

/-- Filters of one form that differ in spelling only. -/
inductive Filter.Alike : Filter → Filter → Prop where
  | computed {v v' : Value} (h : v.Alike v') : Alike (.computed v) (.computed v')
  | comparison {field field' : String} (h : KeyAlike field field') (op : BinaryOp) (v : Value) :
    Alike (.comparison field op v) (.comparison field' op v)
  | range {field field' : String} (h : KeyAlike field field') (low high : Value) :
    Alike (.range field low high) (.range field' low high)
  | among {field field' : String} (h : KeyAlike field field') (values : List Value) :
    Alike (.among field values) (.among field' values)
  | group (op : GroupOp) {clauses clauses' : List Filter}
    (hLength : clauses.length = clauses'.length)
    (h : ∀ f f', (f, f') ∈ clauses.zip clauses' → Alike f f') :
    Alike (.group op clauses) (.group op clauses')
  | negation {f f' : Filter} (h : Alike f f') : Alike (.negation f) (.negation f')

/-- Bodies of matching stages that differ in spelling only: in the paths of computed conditions and
in the fields of native ones. -/
inductive FilterDocumentAlike : Document → Document → Prop where
  | computed {v v' : Value} (h : v.Alike v') : FilterDocumentAlike [("$expr", v)] [("$expr", v')]
  | condition {field field' : String} (h : KeyAlike field field') (condition : Value) :
    FilterDocumentAlike [(field, condition)] [(field', condition)]
  | clauses (operator : String) {ds ds' : List Document}
    (h : List.Forall₂ FilterDocumentAlike ds ds') :
    FilterDocumentAlike [(operator, .array (ds.map .document))]
      [(operator, .array (ds'.map .document))]

namespace Filter

theorem fieldsMentionVariable_clauses (operator : String) (fs : List Filter) :
    Value.fieldsMentionVariable [(operator, .array (toDocuments fs))] =
      fs.any fun f => Value.fieldsMentionVariable f.toDocument := by
  rw [Value.fieldsMentionVariable, Value.fieldsMentionVariable, Bool.or_false,
    Value.mentionsVariable, Value.itemsMentionVariable_eq, toDocuments_eq_map, List.any_map,
    List.any_map]
  rfl

namespace Alike

variable {f f' : Filter}

theorem fieldExpression {field field' : String} (h : KeyAlike field field') (op : BinaryOp)
    (v : Value) : (fieldExpression field op v).Alike (fieldExpression field' op v) := by
  rw [fieldExpression_eq_comparison, fieldExpression_eq_comparison]
  exact Operand.Alike.comparison op (.field h.path) (.constant v)

theorem toExpression (h : f.Alike f') : f.toExpression.Alike f'.toExpression := by
  induction h with
  | computed h => exact h
  | comparison h op v => exact fieldExpression h op v
  | range h low high =>
    exact .apply (by decide)
      (by simp [fieldExpression h .greaterOrEqual low, fieldExpression h .lessOrEqual high])
  | among h values => exact .apply (by decide) (by simp [Value.Alike.path h.path])
  | group op hLength _ ih =>
    rw [Filter.toExpression, Filter.toExpression, toExpressions_eq_map, toExpressions_eq_map]
    refine .apply op.operator_plain.1 ?_
    rw [List.forall₂_map_left_iff, List.forall₂_map_right_iff]
    exact List.forall₂_iff_zip.mpr ⟨hLength, fun hMem => ih _ _ hMem⟩
  | negation _ ih =>
    exact .apply (by decide) (.cons (.apply (by decide) (.cons ih .nil)) .nil)

theorem toDocument (h : f.Alike f') : FilterDocumentAlike f.toDocument f'.toDocument := by
  induction h with
  | computed h => exact .computed h
  | comparison h op v => cases op <;> exact .condition h _
  | range h low high => exact .condition h _
  | among h values => exact .condition h _
  | group op hLength _ ih =>
    rw [Filter.toDocument, Filter.toDocument, toDocuments_eq_map, toDocuments_eq_map]
    refine .clauses _ ?_
    rw [List.forall₂_map_left_iff, List.forall₂_map_right_iff]
    exact List.forall₂_iff_zip.mpr ⟨hLength, fun hMem => ih _ _ hMem⟩
  | negation _ ih => exact .clauses "$nor" (.cons ih .nil)

theorem mentionsVariable (h : f.Alike f') :
    Value.fieldsMentionVariable f.toDocument = Value.fieldsMentionVariable f'.toDocument := by
  induction h with
  | computed h =>
    simp [Filter.toDocument, Value.fieldsMentionVariable_eq, h.mentionsVariable]
  | comparison h op v => cases op <;> rfl
  | range h low high => rfl
  | among h values => rfl
  | group op hLength _ ih =>
    rw [Filter.toDocument, Filter.toDocument, fieldsMentionVariable_clauses,
      fieldsMentionVariable_clauses]
    exact any_eq_of_forall₂ (List.forall₂_iff_zip.mpr ⟨hLength, fun hMem => ih _ _ hMem⟩)
  | @negation f f' _ ih =>
    have hClause := fieldsMentionVariable_clauses "$nor" [f]
    have hClause' := fieldsMentionVariable_clauses "$nor" [f']
    rw [List.any_cons, List.any_nil, Bool.or_false] at hClause hClause'
    exact hClause.trans (ih.trans hClause'.symm)

theorem needsExpression (h : f.Alike f') : f.needsExpression = f'.needsExpression := by
  -- A negated clause may hold a computed condition, so that its paths count too.
  have hMentions := h.mentionsVariable
  cases h with
  | computed => rfl
  | _ => exact hMentions

variable {left left' right right' test test' low low' high high' : Operand}

theorem ofComparison (op : BinaryOp) (hl : left.Alike left') (hr : right.Alike right') :
    (ofComparison op left right).Alike (ofComparison op left' right') := by
  have hComputed := Filter.Alike.computed (hl.comparison op hr)
  have hLeft := hl.fieldName?
  have hRight := hr.fieldName?
  unfold Filter.ofComparison ofComparison?
  rw [← hl.constant?, ← hr.constant?]
  generalize left.fieldName? = name?, left'.fieldName? = name?' at hLeft ⊢
  generalize right.fieldName? = other?, right'.fieldName? = other?' at hRight ⊢
  cases hLeft <;> cases hRight <;> cases left.constant? <;> cases right.constant? <;>
    first | exact hComputed | exact .comparison (by assumption) _ _

theorem ofRange (ht : test.Alike test') (hl : low.Alike low') (hh : high.Alike high') :
    (ofRange test low high).Alike (ofRange test' low' high') := by
  have hComputed := Filter.Alike.computed (ht.rangeComparison hl hh)
  have hTest := ht.fieldName?
  unfold Filter.ofRange
  rw [← hl.constant?, ← hh.constant?]
  generalize test.fieldName? = name?, test'.fieldName? = name?' at hTest ⊢
  cases hTest with
  | none => exact hComputed
  | some hKey =>
    cases low.constant? with
    | none => exact hComputed
    | some l =>
      cases high.constant? with
      | none => exact hComputed
      | some h => exact .range hKey l h

theorem ofMembership {candidates candidates' : List Operand} (hl : left.Alike left')
    (hc : List.Forall₂ Operand.Alike candidates candidates') :
    (ofMembership left candidates).Alike (ofMembership left' candidates') := by
  have hComputed := Filter.Alike.computed (hl.membership hc)
  have hConstants : candidates.all Operand.isConstant = candidates'.all Operand.isConstant ∧
      candidates.filterMap Operand.constant? = candidates'.filterMap Operand.constant? := by
    clear hComputed
    induction hc with
    | nil => exact ⟨rfl, rfl⟩
    | cons h _ ih => simp [List.filterMap_cons, h.isConstant, h.constant?, ih]
  have hLeft := hl.fieldName?
  unfold Filter.ofMembership
  rw [← hConstants.1, ← hConstants.2]
  generalize left.fieldName? = name?, left'.fieldName? = name?' at hLeft ⊢
  cases hLeft with
  | none => exact hComputed
  | some hKey =>
    dsimp only
    split
    · exact .among hKey _
    · exact hComputed

theorem ofGroup? (op : GroupOp) {clauses clauses' : List Filter}
    (h : List.Forall₂ Alike clauses clauses') :
    Option.Rel Alike (ofGroup? op clauses) (ofGroup? op clauses') := by
  have hNeeds : clauses.any Filter.needsExpression = clauses'.any Filter.needsExpression :=
    any_eq_of_forall₂ (h.imp fun _ _ hClause => hClause.needsExpression)
  have hExpressions : List.Forall₂ Value.Alike (toExpressions clauses) (toExpressions clauses') := by
    rw [toExpressions_eq_map, toExpressions_eq_map]
    exact List.rel_map (fun _ _ hClause => hClause.toExpression) h
  have hEmpty : clauses.isEmpty = clauses'.isEmpty := by cases h <;> rfl
  obtain ⟨hLength, hClauses⟩ := List.forall₂_iff_zip.mp h
  unfold Filter.ofGroup?
  rw [← hEmpty, ← hNeeds]
  split
  · exact .none
  · split
    · exact .some (.computed (.apply op.operator_plain.1 hExpressions))
    · exact .some (.group op hLength fun _ _ hMem => hClauses hMem)

end Alike

end Filter

end RelPipe
