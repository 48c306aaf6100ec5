import RelPipe.Proofs.Scoping.Correlations
import RelPipe.Proofs.Subqueries.Reduction

/-!
Attaching the result of a subquery. Its lookup, unwinding and default make of every document exactly
one, which differs from it in the field of the subquery only.
-/

namespace RelPipe

set_option autoImplicit false

open Pipeline

/-! The collection of a plan -/

section

variable {caseSensitive : Bool} {p q : Planning}

theorem Planning.collection_filter {site : Site} {condition : Option Expression}
    (h : p.filter site condition = .ok q) : q.plan.collection = p.plan.collection := by
  cases condition with
  | none =>
    cases h
    rfl
  | some e =>
    obtain ⟨body, _, h⟩ := exists_of_bind_eq_ok h
    cases h
    exact Plan.collection_add _ _ _

theorem Planning.collection_narrow {s : Statement} {g : Grouping}
    (h : p.narrow caseSensitive s = .ok (q, g)) : q.plan.collection = p.plan.collection := by
  obtain ⟨filtered, grouped, hFiltered, hGrouped, hKept⟩ := exists_of_narrow h
  rw [collection_filter hKept, ← collection_filter hFiltered]
  obtain rfl | ⟨body, rfl⟩ := hGrouped
  · rfl
  · exact Plan.collection_add _ _ _

theorem Planning.collection_reduce {site : Site} {a : Aggregate} (h : p.reduce site a = .ok q) :
    q.plan.collection = p.plan.collection := by
  obtain ⟨_, _, _, _, rfl⟩ := exists_of_reduce h
  simp [add]

theorem Planning.collection_attachSubquery (p : Planning) (field : String) (a : Aggregate)
    (inner : Planning) (g : Grouping) :
    (p.attachSubquery field a inner g).plan.collection = p.plan.collection := by
  simp [attachSubquery, add]

theorem Expression.collection_planAll {es : List Expression}
    (h : ∀ e ∈ es, ∀ p q, e.plan caseSensitive p = .ok q → q.plan.collection = p.plan.collection)
    (hPlanned : Expression.planAll caseSensitive es p = .ok q) :
    q.plan.collection = p.plan.collection := by
  induction es generalizing p with
  | nil =>
    cases hPlanned
    rfl
  | cons e es ih =>
    obtain ⟨hHead, hTail⟩ := List.forall_mem_cons.mp h
    obtain ⟨r, hFirst, hRest⟩ := exists_of_bind_eq_ok hPlanned
    rw [ih hTail hRest, hHead p r hFirst]

theorem Expression.collection_plan (e : Expression) (h : e.plan caseSensitive p = .ok q) :
    q.plan.collection = p.plan.collection := by
  induction e using Expression.local_induction generalizing p q with
  | step e ih =>
    by_cases hSubquery : ∃ kind target s, e = .aggregate ⟨kind, target, some s⟩
    · obtain ⟨kind, target, s, rfl⟩ := hSubquery
      obtain ⟨_, rfl⟩ | ⟨_, inner, g, reduced, _, _, rfl⟩ := Aggregate.plan_subquery h
      · rfl
      · exact Planning.collection_attachSubquery _ _ _ _ _
    · rw [Expression.plan_eq_planAll caseSensitive
        (fun kind target s he => hSubquery ⟨kind, target, s, he⟩) p] at h
      exact Expression.collection_planAll (fun c hc _ _ => ih c hc) h

theorem JoinNode.collection_planAll : ∀ (ns : List JoinNode) {p q : Planning},
    JoinNode.planAll caseSensitive ns p = .ok q → q.plan.collection = p.plan.collection
  | [], p, q, h => by
    cases h
    rfl
  | ⟨table, aliasName, kind, condition, joins⟩ :: rest, p, q, h => by
    obtain ⟨one, below, hOne, hBelow, hRest⟩ := exists_of_planAll_cons h
    obtain ⟨_, _, _, rfl⟩ := exists_of_planOne hOne
    rw [collection_planAll rest hRest, collection_planAll joins hBelow]
    simp [Planning.attachJoin, Planning.add]

theorem Statement.collection_planSource {s : Statement} {cs : Correlations} {g : Grouping}
    (h : s.planSource caseSensitive cs = .ok (q, g)) : q.plan.collection = s.table := by
  rw [Statement.planSource_eq] at h
  obtain ⟨joined, hJoined, h⟩ := exists_of_bind_eq_ok h
  obtain ⟨p, hPlanned, hNarrow⟩ := exists_of_bind_eq_ok h
  rw [Planning.collection_narrow hNarrow,
    Expression.collection_planAll (fun e _ _ _ => Expression.collection_plan e) hPlanned,
    JoinNode.collection_planAll s.joins hJoined]
  rfl

end

/-! The three stages -/

/-- The value of a subquery, given one input for each of its documents. -/
def AggregateKind.answer (kind : AggregateKind) (inputs : List Value) : Value :=
  if inputs = [] ∨ (kind.total inputs).isAbsent = true then Planning.emptyResult kind
  else kind.total inputs

/-- How a document is answered by a subquery: only the field of the subquery changes, and it holds
the aggregate over the documents that the source yields with the variables of that document. Counts
are right as long as they fit 64 bits. -/
structure AggregateKind.Answers (kind : AggregateKind) (catalog : Catalog) (vars : Variables)
    (correlations : Correlations) (source : Plan) (input : Value) (field : String)
    (d answered : Document) : Prop where
  others : ∀ name, name ≠ field → Fields.get? answered name = Fields.get? d name
  order : Fields.erase answered field = Fields.erase d field
  answer : ∃ bound yielded inputs,
    Lookup.bind ⟨d, vars⟩ vars correlations.toDocument = .ok bound ∧
    runStages catalog bound (source.pipeline.map .document) (catalog.collection source.collection) =
      .ok yielded ∧
    List.Forall₂ (fun x v => evaluate ⟨x, bound⟩ (kind.operand input) = .ok v) yielded inputs ∧
    ((kind.counts = true → yielded.length < 0x8000000000000000) →
      Fields.get? answered field = some (kind.answer inputs))

namespace Planning

theorem dot_not_mem_nextField (p : Planning) : '.' ∉ p.nextField.toList := by
  rw [nextField, String.toList_append, List.mem_append, not_or]
  exact ⟨by decide, Text.Numeral.not_mem_ofNat rfl _⟩

theorem dollar_nextField (p : Planning) (path : String) :
    Text.dollar (p.nextField ++ path) = false := by
  rw [nextField, Text.dollar, String.append_assoc, String.toList_append]
  rfl

def defaultDocument (p : Planning) (kind : AggregateKind) : Document :=
  [(p.nextField, .apply "$ifNull" [.string ("$" ++ p.nextField ++ ".value"), emptyResult kind])]

theorem addFields_default (p : Planning) (kind : AggregateKind) (vars : Variables) {d d' : Document}
    (h : addFields vars (p.defaultDocument kind) d = .ok d') :
    d' = Fields.insert d p.nextField
      (let v := (d.path? (p.nextField ++ "." ++ "value")).getD .undefined
      if v.isAbsent then emptyResult kind else v) := by
  have hPath : "$" ++ p.nextField ++ ".value" = "$" ++ (p.nextField ++ "." ++ "value") := by
    rw [String.append_assoc, String.append_assoc]
    rfl
  have hField : Text.dollar (p.nextField ++ "." ++ "value") = false := by
    rw [String.append_assoc]
    exact p.dollar_nextField _
  have hDefault : evaluate ⟨d, vars⟩ (emptyResult kind) = .ok (emptyResult kind) := by
    cases kind <;> rfl
  have hPresent : ∀ v : Value,
      (if v.isAbsent = true then emptyResult kind else v).isMissing = false := by
    intro v
    split
    · cases kind <;> rfl
    · cases v <;> first | rfl | contradiction
  have hValue : evaluate ⟨d, vars⟩ (.apply "$ifNull"
      [.string ("$" ++ p.nextField ++ ".value"), emptyResult kind]) =
      .ok (let v := (d.path? (p.nextField ++ "." ++ "value")).getD .undefined
        if v.isAbsent then emptyResult kind else v) := by
    rw [hPath, evaluate_onValues rfl rfl, evaluateEach_pair (evaluate_field hField) hDefault]
    rfl
  rw [addFields, defaultDocument, evaluateFields, hValue] at h
  simp only [evaluateFields, bind, Except.bind, hPresent, Fields.insertAll, Bool.false_eq_true,
    if_false, List.foldl_cons, List.foldl_nil] at h
  exact (Except.ok.inj h).symm

theorem answers_of_found (p : Planning) {kind : AggregateKind} {catalog : Catalog} {vars : Variables}
    {correlations : Correlations} {source : Plan} {input : Value} {d x : Document}
    (hDistinct : Fields.Distinct d) {bound : Variables} {yielded : List Document}
    {inputs : List Value} (hBound : Lookup.bind ⟨d, vars⟩ vars correlations.toDocument = .ok bound)
    (hYielded : runStages catalog bound (source.pipeline.map .document)
      (catalog.collection source.collection) = .ok yielded)
    (hInputs : List.Forall₂ (fun x v => evaluate ⟨x, bound⟩ (kind.operand input) = .ok v)
      yielded inputs)
    (hValue : inputs ≠ [] → (kind.counts = true → yielded.length < 0x8000000000000000) →
      (Document.path? x "value").getD .undefined = kind.total inputs) :
    ∃ spread, unwind p.nextField true (Fields.insert d p.nextField
        (.array ((if inputs = [] then [] else [x]).map .document))) = [spread] ∧
      ∀ d', addFields vars (p.defaultDocument kind) spread = .ok d' →
        kind.Answers catalog vars correlations source input p.nextField d d' := by
  rw [unwind_insert]
  by_cases hNone : inputs = []
  · rw [if_pos hNone]
    refine ⟨Fields.erase d p.nextField, rfl, fun d' hAdded => ?_⟩
    have hAbsent : Document.path? (Fields.erase d p.nextField) (p.nextField ++ "." ++ "value") =
        none := by
      rw [Document.path?_dotted _ p.dot_not_mem_nextField, hDistinct.get?_erase_self]
    obtain rfl := p.addFields_default kind vars hAdded
    rw [hAbsent]
    refine ⟨fun name hName => ?_, ?_, bound, yielded, inputs, hBound, hYielded, hInputs, fun _ => ?_⟩
    · rw [Fields.get?_insert_of_ne _ (Ne.symm hName), Fields.get?_erase_of_ne _ (Ne.symm hName)]
    · rw [Fields.erase_insert_self, hDistinct.erase_erase_self]
    · have hEmpty : kind.answer inputs = emptyResult kind := if_pos (.inl hNone)
      rw [Fields.get?_insert_self, hEmpty]
      rfl
  · rw [if_neg hNone]
    refine ⟨Fields.insert d p.nextField (.document x), rfl, fun d' hAdded => ?_⟩
    have hRead : Document.path? (Fields.insert d p.nextField (.document x))
        (p.nextField ++ "." ++ "value") = Document.path? x "value" := by
      rw [Document.path?_dotted _ p.dot_not_mem_nextField, Fields.get?_insert_self]
    obtain rfl := p.addFields_default kind vars hAdded
    rw [hRead]
    refine ⟨fun name hName => ?_, ?_, bound, yielded, inputs, hBound, hYielded, hInputs,
      fun hFits => ?_⟩
    · rw [Fields.get?_insert_of_ne _ (Ne.symm hName), Fields.get?_insert_of_ne _ (Ne.symm hName)]
    · rw [Fields.erase_insert_self, Fields.erase_insert_self]
    · rw [Fields.get?_insert_self, hValue hNone hFits, AggregateKind.answer]
      simp only [hNone, false_or]

end Planning

/-- Where each document of a list becomes one related to it, spreading them keeps the relation. -/
theorem forall₂_flatMap {α β γ : Type} {R : α → β → Prop} {S : α → γ → Prop} {f : β → List γ}
    {as : List α} {bs : List β} (h : List.Forall₂ R as bs)
    (hf : ∀ a b, R a b → ∃ c, f b = [c] ∧ S a c) : List.Forall₂ S as (bs.flatMap f) := by
  induction h with
  | nil => exact .nil
  | cons hHead _ ih =>
    obtain ⟨c, hc, hS⟩ := hf _ _ hHead
    rw [List.flatMap_cons, hc]
    exact .cons hS ih

theorem forall₂_comp {α β γ : Type} {R : α → β → Prop} {S : β → γ → Prop} {T : α → γ → Prop}
    {as : List α} {bs : List β} {cs : List γ} (h : List.Forall₂ R as bs)
    (h' : List.Forall₂ S bs cs) (hComp : ∀ a b c, R a b → S b c → T a c) :
    List.Forall₂ T as cs := by
  induction h generalizing cs with
  | nil =>
    cases h'
    exact .nil
  | cons hHead _ ih =>
    cases h' with
    | cons hHead' hTail' => exact .cons (hComp _ _ _ hHead hHead') (ih hTail')

theorem Lookup.exists_of_attach {l : Lookup} {vars : Variables}
    {run : Variables → Result (List Document)} {d d' : Document}
    (h : l.attach vars run d = .ok d') :
    ∃ bound found, Lookup.bind ⟨d, vars⟩ vars l.bindings = .ok bound ∧ run bound = .ok found ∧
      d' = Fields.insert d l.field (.array (found.map .document)) := by
  obtain ⟨bound, hBound, h⟩ := exists_of_bind_eq_ok h
  obtain ⟨found, hFound, h⟩ := exists_of_bind_eq_ok h
  exact ⟨bound, found, hBound, hFound, (Except.ok.inj h).symm⟩

theorem Planning.stages_attachSubquery (p : Planning) (a : Aggregate) (inner : Planning)
    (g : Grouping) :
    (p.attachSubquery p.nextField a inner g).plan.stages = p.plan.stages ++
      [⟨.lookup, .document (lookupDocument inner.plan.collection p.nextField
          inner.scope.correlations inner.plan)⟩,
        ⟨.unwind, .document (unwindDocument p.nextField true)⟩,
        ⟨.addFields, .document (p.defaultDocument a.kind)⟩] := by
  dsimp only [attachSubquery, add]
  rw [Plan.stages_add _ _ (List.cons_ne_nil _ _), Plan.stages_add _ _ (by simp [unwindDocument]),
    Plan.stages_add _ _ (lookupDocument_ne_nil _ _ _ _), List.append_assoc, List.append_assoc]
  rfl

def Aggregate.largestItem : Aggregate :=
  ⟨.max, some (.column ⟨some "i", "amount", .int32⟩),
    some { Statement.empty with
      table := "items"
      aliasName := some "i"
      condition := some (.binary .equal (.column ⟨some "i", "order", .int32⟩)
        (.column ⟨some "o", "id", .int32⟩)) }⟩

end RelPipe
