import RelPipe.Proofs.Outcome
import RelPipe.Proofs.Scoping.OuterColumns
import RelPipe.Proofs.Statement.Part
import RelPipe.Compile.Planning

/-!
What planning a statement leaves as it is. Joins register aliases; from then on names lead where
they led, stages are only appended, and the fields of planned subqueries stay known. Every subquery
of a planned statement is attached by a lookup, together with those of the same signature.
-/

namespace RelPipe

set_option autoImplicit false

theorem Scope.columnPath_congr {s t : Scope} (hAliases : t.aliases = s.aliases)
    (hCorrelations : t.correlations = s.correlations) (ref : ColumnRef) :
    t.columnPath ref = s.columnPath ref := by
  rw [columnPath, columnPath, hAliases, hCorrelations]

theorem Plan.add_eq (p : Plan) (kind : StageKind) {body : Document} (h : body ≠ []) :
    p.add kind (.document body) = ⟨p.collection, p.stages ++ [⟨kind, .document body⟩]⟩ := by
  cases body with
  | nil => exact absurd rfl h
  | cons field fields => rfl

theorem Plan.stages_add (p : Plan) (kind : StageKind) {body : Document} (h : body ≠ []) :
    (p.add kind (.document body)).stages = p.stages ++ [⟨kind, .document body⟩] := by
  rw [add_eq p kind h]

theorem Plan.stages_prefix_add (p : Plan) (kind : StageKind) (body : Value) :
    p.stages <+: (p.add kind body).stages := by
  unfold add
  split
  · exact List.prefix_refl _
  · exact List.prefix_append _ _

theorem Plan.mem_stages_add (p : Plan) (kind : StageKind) {body : Document} (h : body ≠ []) :
    ⟨kind, .document body⟩ ∈ (p.add kind (.document body)).stages := by
  rw [stages_add p kind h]
  exact List.mem_append_right _ (List.mem_singleton.mpr rfl)

namespace Planning

/-- Planning went on: names lead where they led, and nothing planned was lost. -/
structure Extends (p q : Planning) : Prop where
  aliases : q.scope.aliases = p.scope.aliases
  correlations : q.scope.correlations = p.scope.correlations
  stages : p.plan.stages <+: q.plan.stages
  fields : ∀ signature field, p.scope.subqueryField? signature = some field →
    q.scope.subqueryField? signature = some field

theorem Extends.refl (p : Planning) : p.Extends p :=
  ⟨rfl, rfl, List.prefix_refl _, fun _ _ h => h⟩

theorem Extends.trans {p q r : Planning} (h : p.Extends q) (h' : q.Extends r) : p.Extends r where
  aliases := h'.aliases.trans h.aliases
  correlations := h'.correlations.trans h.correlations
  stages := h.stages.trans h'.stages
  fields signature field hField := h'.fields signature field (h.fields signature field hField)

theorem Extends.columnPath {p q : Planning} (h : p.Extends q) :
    q.scope.columnPath = p.scope.columnPath := by
  funext ref
  exact Scope.columnPath_congr h.aliases h.correlations ref

theorem Extends.subqueryCorrelations {p q : Planning} (h : p.Extends q) (a : Aggregate) :
    q.subqueryCorrelations a = p.subqueryCorrelations a := by
  unfold Planning.subqueryCorrelations
  rw [h.columnPath]

theorem extends_add (p : Planning) (kind : StageKind) (body : Document) :
    p.Extends (p.add kind body) :=
  ⟨rfl, rfl, p.plan.stages_prefix_add kind _, fun _ _ h => h⟩

theorem extends_filter {p q : Planning} {site : Site} {condition : Option Expression}
    (h : p.filter site condition = .ok q) : p.Extends q ∧ q.scope = p.scope := by
  cases condition with
  | none =>
    cases h
    exact ⟨.refl p, rfl⟩
  | some e =>
    obtain ⟨body, _, h⟩ := exists_of_bind_eq_ok h
    cases h
    exact ⟨extends_add p _ _, rfl⟩

theorem exists_of_narrow {p q : Planning} {caseSensitive : Bool} {s : Statement} {g : Grouping}
    (h : p.narrow caseSensitive s = .ok (q, g)) :
    ∃ filtered grouped : Planning,
      p.filter (p.site caseSensitive) s.condition = .ok filtered ∧
      (grouped = filtered ∨ ∃ body, grouped = filtered.add .group body) ∧
      grouped.filter { p.site caseSensitive with grouping := Grouping.ofStatement s } s.having =
        .ok q := by
  obtain ⟨filtered, hFiltered, h⟩ := exists_of_bind_eq_ok h
  dsimp only at h
  split at h
  · obtain ⟨kept, hKept, hPair⟩ := exists_of_map_eq_ok h
    cases hPair
    exact ⟨filtered, filtered, hFiltered, .inl rfl, hKept⟩
  · obtain ⟨body, _, h⟩ := exists_of_bind_eq_ok h
    obtain ⟨kept, hKept, hPair⟩ := exists_of_map_eq_ok h
    cases hPair
    exact ⟨filtered, filtered.add .group body, hFiltered, .inr ⟨body, rfl⟩, hKept⟩

theorem extends_narrow {p q : Planning} {caseSensitive : Bool} {s : Statement} {g : Grouping}
    (h : p.narrow caseSensitive s = .ok (q, g)) : p.Extends q ∧ q.scope = p.scope := by
  obtain ⟨filtered, grouped, hFiltered, hGrouped, hKept⟩ := exists_of_narrow h
  obtain ⟨hFirst, hFirstScope⟩ := extends_filter hFiltered
  obtain ⟨hLast, hLastScope⟩ := extends_filter hKept
  obtain rfl | ⟨body, rfl⟩ := hGrouped
  · exact ⟨hFirst.trans hLast, hLastScope.trans hFirstScope⟩
  · exact ⟨(hFirst.trans (extends_add _ _ _)).trans hLast, hLastScope.trans hFirstScope⟩

theorem extends_reduce {p q : Planning} {site : Site} {a : Aggregate}
    (h : p.reduce site a = .ok q) : p.Extends q ∧ q.scope = p.scope := by
  have hTwo : ∃ first second, q = (p.add .group first).add .project second := by
    unfold reduce at h
    dsimp only at h
    split at h
    all_goals
      obtain ⟨input, _, h⟩ := exists_of_bind_eq_ok h
      obtain ⟨accumulator, _, h⟩ := exists_of_bind_eq_ok h
      exact ⟨_, _, (Except.ok.inj h).symm⟩
  obtain ⟨first, second, rfl⟩ := hTwo
  exact ⟨(extends_add p _ _).trans (extends_add _ _ _), rfl⟩

theorem lookupDocument_ne_nil (collection field : String) (cs : Correlations) (plan : Plan) :
    lookupDocument collection field cs plan ≠ [] := by
  simp [lookupDocument]

section

variable (p : Planning) (field : String) (a : Aggregate) (inner : Planning) (g : Grouping)

theorem subqueryField?_attachSubquery (signature : Signature) :
    (p.attachSubquery field a inner g).scope.subqueryField? signature =
      (p.scope.subqueryField? signature).or
        (if signature = a.signature then some field else none) := by
  change (p.scope.subqueries ++ [(a.signature, field)]).lookup signature = _
  rw [List.lookup_append, List.lookup_cons]
  cases h : signature == a.signature <;> simp_all [Scope.subqueryField?]

theorem plan_attachSubquery :
    ∃ spread fields, (p.attachSubquery field a inner g).plan =
      ((p.plan.add .lookup (.document (lookupDocument inner.plan.collection field
        inner.scope.correlations inner.plan))).add .unwind spread).add .addFields fields := by
  dsimp only [attachSubquery, add]
  exact ⟨_, _, rfl⟩

theorem extends_attachSubquery : p.Extends (p.attachSubquery field a inner g) where
  aliases := rfl
  correlations := rfl
  stages := by
    obtain ⟨spread, fields, hPlan⟩ := plan_attachSubquery p field a inner g
    rw [hPlan]
    exact ((p.plan.stages_prefix_add _ _).trans (Plan.stages_prefix_add _ _ _)).trans
      (Plan.stages_prefix_add _ _ _)
  fields signature name h := by
    rw [subqueryField?_attachSubquery, h]
    rfl

theorem mem_stages_attachSubquery :
    ⟨.lookup, .document
      (lookupDocument inner.plan.collection field inner.scope.correlations inner.plan)⟩ ∈
      (p.attachSubquery field a inner g).plan.stages := by
  obtain ⟨spread, fields, hPlan⟩ := plan_attachSubquery p field a inner g
  have hLookup := p.plan.mem_stages_add .lookup
    (lookupDocument_ne_nil inner.plan.collection field inner.scope.correlations inner.plan)
  rw [hPlan]
  exact ((Plan.stages_prefix_add _ _ _).trans (Plan.stages_prefix_add _ _ _)).subset hLookup

end

/-- A subquery has been planned on its own and attached under a field. -/
structure Attached (p : Planning) (caseSensitive : Bool) (a : Aggregate) (s : Statement)
    (inner : Planning) (g : Grouping) (lookup : Document) : Prop where
  statement : a.statement = some s
  planned : s.planSource caseSensitive (p.subqueryCorrelations a) = .ok (inner, g)
  reduced : ∃ reduced field, inner.reduce ⟨inner.scope, g, caseSensitive⟩ a = .ok reduced ∧
    lookup = lookupDocument reduced.plan.collection field reduced.scope.correlations reduced.plan ∧
    p.scope.subqueryField? a.signature = some field
  stage : ⟨.lookup, .document lookup⟩ ∈ p.plan.stages

theorem Attached.extend {p q : Planning} {caseSensitive : Bool} {a : Aggregate} {s : Statement}
    {inner : Planning} {g : Grouping} {lookup : Document}
    (h : p.Attached caseSensitive a s inner g lookup) (hExtends : p.Extends q) :
    q.Attached caseSensitive a s inner g lookup where
  statement := h.statement
  planned := by
    rw [hExtends.subqueryCorrelations]
    exact h.planned
  reduced := by
    obtain ⟨reduced, field, hReduced, hLookup, hField⟩ := h.reduced
    exact ⟨reduced, field, hReduced, hLookup, hExtends.fields _ _ hField⟩
  stage := hExtends.stages.subset h.stage

/-- Planning went on through the wanted subqueries: each is known under its signature, and what is
known since then is a wanted subquery that has been attached. -/
structure Adds (caseSensitive : Bool) (wanted : Aggregate → Prop) (p q : Planning) : Prop where
  grows : p.Extends q
  known : ∀ a, wanted a → a.statement ≠ none →
    (q.scope.subqueryField? a.signature).isSome = true
  origin : ∀ signature field, q.scope.subqueryField? signature = some field →
    p.scope.subqueryField? signature = some field ∨
      ∃ a s inner g lookup, wanted a ∧ a.signature = signature ∧
        q.Attached caseSensitive a s inner g lookup

theorem Adds.refl (caseSensitive : Bool) (p : Planning) :
    Adds caseSensitive (fun _ => False) p p where
  grows := .refl p
  known _ h := h.elim
  origin _ _ h := .inl h

theorem Adds.congr {caseSensitive : Bool} {wanted wanted' : Aggregate → Prop} {p q : Planning}
    (h : Adds caseSensitive wanted p q) (hForth : ∀ a, wanted a → wanted' a)
    (hBack : ∀ a, wanted' a → a.statement ≠ none → wanted a) :
    Adds caseSensitive wanted' p q where
  grows := h.grows
  known a hWanted hStatement := h.known a (hBack a hWanted hStatement) hStatement
  origin signature field hField := by
    obtain hEarlier | ⟨a, s, inner, g, lookup, hWanted, hRest⟩ := h.origin signature field hField
    · exact .inl hEarlier
    · exact .inr ⟨a, s, inner, g, lookup, hForth a hWanted, hRest⟩

theorem Adds.trans {caseSensitive : Bool} {wanted wanted' : Aggregate → Prop} {p q r : Planning}
    (h : Adds caseSensitive wanted p q) (h' : Adds caseSensitive wanted' q r) :
    Adds caseSensitive (fun a => wanted a ∨ wanted' a) p r where
  grows := h.grows.trans h'.grows
  known a hWanted hStatement := by
    obtain hWanted | hWanted := hWanted
    · obtain ⟨field, hField⟩ := Option.isSome_iff_exists.mp (h.known a hWanted hStatement)
      rw [h'.grows.fields _ _ hField]
      rfl
    · exact h'.known a hWanted hStatement
  origin signature field hField := by
    obtain hEarlier | ⟨a, s, inner, g, lookup, hWanted, hSignature, hAttached⟩ :=
      h'.origin signature field hField
    · obtain hFirst | ⟨a, s, inner, g, lookup, hWanted, hSignature, hAttached⟩ :=
        h.origin signature field hEarlier
      · exact .inl hFirst
      · exact .inr ⟨a, s, inner, g, lookup, .inl hWanted, hSignature,
          hAttached.extend h'.grows⟩
    · exact .inr ⟨a, s, inner, g, lookup, .inr hWanted, hSignature, hAttached⟩

end Planning

theorem Expression.mem_children_of_mem_localChildren {c e : Expression}
    (h : c ∈ e.localChildren) : c ∈ e.children := by
  cases e with
  | aggregate a =>
    match a with
    | ⟨_, _, none⟩ => exact h
    | ⟨_, _, some _⟩ => cases h
  | _ => exact h

theorem Expression.local_induction {P : Expression → Prop}
    (step : ∀ e : Expression, (∀ c ∈ e.localChildren, P c) → P e) (e : Expression) : P e := by
  induction e using part_induction with
  | step e ih =>
    exact step e fun c hc => ih c (mem_children_of_mem_localChildren hc) c (.self c)

def Expression.HasSubquery (e : Expression) (a : Aggregate) : Prop :=
  (Expression.aggregate a).LocalPart e

theorem Aggregate.plan_subquery {caseSensitive : Bool} {kind : AggregateKind}
    {target : Option Expression} {s : Statement} {p q : Planning}
    (h : Aggregate.plan caseSensitive ⟨kind, target, some s⟩ p = .ok q) :
    (p.scope.subqueryField? (Aggregate.signature ⟨kind, target, some s⟩)).isSome = true ∧ q = p ∨
    p.scope.subqueryField? (Aggregate.signature ⟨kind, target, some s⟩) = none ∧
      ∃ inner g reduced,
        s.planSource caseSensitive (p.subqueryCorrelations ⟨kind, target, some s⟩) =
          .ok (inner, g) ∧
        inner.reduce ⟨inner.scope, g, caseSensitive⟩ ⟨kind, target, some s⟩ = .ok reduced ∧
        q = p.attachSubquery p.nextField ⟨kind, target, some s⟩ reduced g := by
  rw [Aggregate.plan.eq_def] at h
  dsimp only at h
  split at h
  · rename_i hKnown
    cases h
    exact .inl ⟨hKnown, rfl⟩
  · rename_i hUnknown
    refine .inr ⟨by simpa using hUnknown, ?_⟩
    split at h
    · cases h
    · obtain ⟨⟨inner, g⟩, hPlanned, h⟩ := exists_of_bind_eq_ok h
      obtain ⟨reduced, hReduced, h⟩ := exists_of_bind_eq_ok h
      exact ⟨inner, g, reduced, hPlanned, hReduced, (Except.ok.inj h).symm⟩

theorem Expression.hasSubquery_iff {e : Expression} {a : Aggregate} :
    e.HasSubquery a ↔ e = .aggregate a ∨ ∃ c ∈ e.localChildren, c.HasSubquery a := by
  constructor
  · intro h
    cases h with
    | self => exact .inl rfl
    | child hc h => exact .inr ⟨_, hc, h⟩
  · rintro (rfl | ⟨c, hc, h⟩)
    · exact .self _
    · exact .child hc h

/-- Outside of subqueries, planning an expression is planning its parts. -/
theorem Expression.plan_eq_planAll {e : Expression} (caseSensitive : Bool)
    (h : ∀ kind target s, e ≠ .aggregate ⟨kind, target, some s⟩) (p : Planning) :
    e.plan caseSensitive p = Expression.planAll caseSensitive e.localChildren p := by
  have hOne : ∀ e : Expression,
      Expression.planAll caseSensitive [e] = e.plan caseSensitive := by
    intro e
    funext p
    rw [Expression.planAll]
    cases e.plan caseSensitive p <;> rfl
  cases e with
  | unary op e =>
    change e.plan caseSensitive p = Expression.planAll caseSensitive [e] p
    rw [hOne]
  | binary op l r =>
    change (l.plan caseSensitive p).bind (r.plan caseSensitive) =
      (l.plan caseSensitive p).bind (Expression.planAll caseSensitive [r])
    rw [hOne]
  | between t l u =>
    change (t.plan caseSensitive p).bind (fun p =>
        (l.plan caseSensitive p).bind (u.plan caseSensitive)) =
      (t.plan caseSensitive p).bind (fun p =>
        (l.plan caseSensitive p).bind (Expression.planAll caseSensitive [u]))
    rw [hOne]
  | aggregate a =>
    match a with
    | ⟨_, none, none⟩ => rfl
    | ⟨_, some target, none⟩ =>
      change target.plan caseSensitive p = Expression.planAll caseSensitive [target] p
      rw [hOne]
    | ⟨_, _, some _⟩ => exact absurd rfl (h _ _ _)
  | _ => rfl

theorem Expression.adds_planAll {caseSensitive : Bool} {es : List Expression}
    (h : ∀ e ∈ es, ∀ p q, e.plan caseSensitive p = .ok q →
      Planning.Adds caseSensitive e.HasSubquery p q) {p q : Planning}
    (hPlanned : Expression.planAll caseSensitive es p = .ok q) :
    Planning.Adds caseSensitive (fun a => ∃ e ∈ es, e.HasSubquery a) p q := by
  induction es generalizing p with
  | nil =>
    cases hPlanned
    exact (Planning.Adds.refl caseSensitive _).congr (fun _ h => h.elim) (by simp)
  | cons e es ih =>
    obtain ⟨hHead, hTail⟩ := List.forall_mem_cons.mp h
    obtain ⟨r, hFirst, hRest⟩ := exists_of_bind_eq_ok hPlanned
    exact ((hHead p r hFirst).trans (ih hTail hRest)).congr (by simp)
      fun _ hPart _ => by simpa using hPart

theorem Aggregate.adds_plan {caseSensitive : Bool} {kind : AggregateKind}
    {target : Option Expression} {s : Statement} {p q : Planning}
    (h : Aggregate.plan caseSensitive ⟨kind, target, some s⟩ p = .ok q) :
    Planning.Adds caseSensitive (· = ⟨kind, target, some s⟩) p q := by
  obtain ⟨hKnown, rfl⟩ | ⟨hUnknown, inner, g, reduced, hPlanned, hReduced, rfl⟩ :=
    Aggregate.plan_subquery h
  · refine ⟨.refl q, ?_, fun _ _ hField => .inl hField⟩
    rintro a rfl _
    exact hKnown
  · have hField := Planning.subqueryField?_attachSubquery p p.nextField ⟨kind, target, some s⟩
      reduced g
    have hExtends := Planning.extends_attachSubquery p p.nextField ⟨kind, target, some s⟩ reduced g
    refine ⟨hExtends, ?_, ?_⟩
    · rintro a rfl _
      rw [hField, hUnknown, if_pos rfl]
      rfl
    · intro signature field hFound
      rw [hField] at hFound
      cases hEarlier : p.scope.subqueryField? signature with
      | some earlier =>
        rw [hEarlier] at hFound
        exact .inl hFound
      | none =>
        by_cases hSignature : signature = Aggregate.signature ⟨kind, target, some s⟩
        · refine .inr ⟨_, s, inner, g, lookupDocument reduced.plan.collection p.nextField
            reduced.scope.correlations reduced.plan, rfl, hSignature.symm, rfl, ?_, ?_, ?_⟩
          · rw [hExtends.subqueryCorrelations]
            exact hPlanned
          · refine ⟨reduced, p.nextField, hReduced, rfl, ?_⟩
            rw [hField, hUnknown, if_pos rfl]
            rfl
          · exact Planning.mem_stages_attachSubquery p p.nextField _ reduced g
        · rw [hEarlier, if_neg hSignature] at hFound
          cases hFound

theorem Expression.adds_plan {caseSensitive : Bool} (e : Expression) {p q : Planning}
    (h : e.plan caseSensitive p = .ok q) : Planning.Adds caseSensitive e.HasSubquery p q := by
  induction e using Expression.local_induction generalizing p q with
  | step e ih =>
    by_cases hSubquery : ∃ kind target s, e = .aggregate ⟨kind, target, some s⟩
    · obtain ⟨kind, target, s, rfl⟩ := hSubquery
      refine (Aggregate.adds_plan h).congr ?_ ?_
      · rintro a rfl
        exact .self _
      · intro a hPart _
        obtain hSelf | ⟨c, hc, _⟩ := Expression.hasSubquery_iff.mp hPart
        · exact (Expression.aggregate.inj hSelf).symm
        · cases hc
    · have hParts := Expression.plan_eq_planAll caseSensitive
        (fun kind target s he => hSubquery ⟨kind, target, s, he⟩) p
      rw [hParts] at h
      refine (Expression.adds_planAll (fun c hc p q h => ih c hc h) h).congr ?_ ?_
      · intro a hPart
        exact Expression.hasSubquery_iff.mpr (.inr hPart)
      · intro a hPart hStatement
        obtain rfl | hPart := Expression.hasSubquery_iff.mp hPart
        · obtain ⟨kind, target, statement⟩ := a
          cases statement with
          | none => exact absurd rfl hStatement
          | some s => exact absurd ⟨kind, target, s, rfl⟩ hSubquery
        · exact hPart

namespace JoinNode

def fieldAt (node : JoinNode) (p : Planning) : String :=
  fieldName node.table node.aliasName p.plan.stages.length

def startAt (node : JoinNode) (p : Planning) : Planning :=
  { Planning.start node.table (node.fieldAt p)
      (p.joinCorrelations (node.fieldAt p) node.condition) with
    subqueries := p.subqueries }

def planOne (caseSensitive : Bool) (node : JoinNode) (p : Planning) :
    Except CompileError Planning := do
  let inner ← Expression.planOption caseSensitive node.condition (node.startAt p)
  let joined ← inner.filter (inner.site caseSensitive) node.condition
  .ok (p.attachJoin node.table (node.fieldAt p) node.kind joined)

theorem planAll_cons (caseSensitive : Bool) (node : JoinNode) (rest : List JoinNode)
    (p : Planning) :
    JoinNode.planAll caseSensitive (node :: rest) p =
      node.planOne caseSensitive p >>= fun q =>
        JoinNode.planAll caseSensitive node.joins q >>= JoinNode.planAll caseSensitive rest := by
  obtain ⟨table, aliasName, kind, condition, joins⟩ := node
  rw [planAll]
  simp only [planOne, bind_assoc]
  rfl

theorem exists_of_planAll_cons {caseSensitive : Bool} {node : JoinNode} {rest : List JoinNode}
    {p q : Planning} (h : JoinNode.planAll caseSensitive (node :: rest) p = .ok q) :
    ∃ one below, node.planOne caseSensitive p = .ok one ∧
      JoinNode.planAll caseSensitive node.joins one = .ok below ∧
      JoinNode.planAll caseSensitive rest below = .ok q := by
  rw [planAll_cons] at h
  obtain ⟨one, hOne, h⟩ := exists_of_bind_eq_ok h
  obtain ⟨below, hBelow, h⟩ := exists_of_bind_eq_ok h
  exact ⟨one, below, hOne, hBelow, h⟩

/-- The two steps of the pipeline of a join: the subqueries of the condition, then its filter. -/
structure Joined (caseSensitive : Bool) (node : JoinNode) (p inner joined : Planning) : Prop where
  planned : Expression.planOption caseSensitive node.condition (node.startAt p) = .ok inner
  filtered : inner.filter (inner.site caseSensitive) node.condition = .ok joined

theorem exists_of_planOne {caseSensitive : Bool} {node : JoinNode} {p q : Planning}
    (h : node.planOne caseSensitive p = .ok q) :
    ∃ inner joined, node.Joined caseSensitive p inner joined ∧
      q = p.attachJoin node.table (node.fieldAt p) node.kind joined := by
  obtain ⟨inner, hInner, h⟩ := exists_of_bind_eq_ok h
  obtain ⟨joined, hJoined, h⟩ := exists_of_bind_eq_ok h
  exact ⟨inner, joined, ⟨hInner, hJoined⟩, (Except.ok.inj h).symm⟩

/-- Joins leave the variables and the planned subqueries of the statement as they are. -/
theorem planAll_scope {caseSensitive : Bool} : ∀ (ns : List JoinNode) {p q : Planning},
    JoinNode.planAll caseSensitive ns p = .ok q →
      q.scope.correlations = p.scope.correlations ∧ q.scope.subqueries = p.scope.subqueries
  | [], p, q, h => by
    cases h
    exact ⟨rfl, rfl⟩
  | ⟨table, aliasName, kind, condition, joins⟩ :: rest, p, q, h => by
    obtain ⟨one, below, hOne, hBelow, hRest⟩ := exists_of_planAll_cons h
    obtain ⟨_, _, _, rfl⟩ := exists_of_planOne hOne
    obtain ⟨hFirst, hFirst'⟩ := planAll_scope joins hBelow
    obtain ⟨hSecond, hSecond'⟩ := planAll_scope rest hRest
    exact ⟨hSecond.trans hFirst, hSecond'.trans hFirst'⟩

end JoinNode

theorem OutputColumn.planAll_eq (caseSensitive : Bool) (os : List OutputColumn) (p : Planning) :
    OutputColumn.planAll caseSensitive os p =
      Expression.planAll caseSensitive (os.map (·.expression)) p := by
  induction os generalizing p with
  | nil => rfl
  | cons o os ih =>
    obtain ⟨e, name⟩ := o
    rw [OutputColumn.planAll, List.map_cons, Expression.planAll]
    cases e.plan caseSensitive p with
    | error err => rfl
    | ok q => exact ih q

theorem SortKey.planAll_eq (caseSensitive : Bool) (ks : List SortKey) (p : Planning) :
    SortKey.planAll caseSensitive ks p =
      Expression.planAll caseSensitive (ks.map (·.expression)) p := by
  induction ks generalizing p with
  | nil => rfl
  | cons k ks ih =>
    obtain ⟨e, direction⟩ := k
    rw [SortKey.planAll, List.map_cons, Expression.planAll]
    cases e.plan caseSensitive p with
    | error err => rfl
    | ok q => exact ih q

theorem Expression.planOption_eq (caseSensitive : Bool) (e : Option Expression) (p : Planning) :
    Expression.planOption caseSensitive e p = Expression.planAll caseSensitive e.toList p := by
  cases e with
  | none => rfl
  | some e =>
    rw [planOption, Option.toList, planAll]
    cases e.plan caseSensitive p <;> rfl

theorem Expression.planAll_append (caseSensitive : Bool) (es fs : List Expression) (p : Planning) :
    Expression.planAll caseSensitive (es ++ fs) p =
      Expression.planAll caseSensitive es p >>= Expression.planAll caseSensitive fs := by
  induction es generalizing p with
  | nil => rfl
  | cons e es ih =>
    rw [List.cons_append, planAll, planAll]
    cases e.plan caseSensitive p with
    | error err => rfl
    | ok q => exact ih q

/-- A statement is planned in three parts: its joins, the subqueries of its expressions, and the
stages of its conditions and groups. -/
theorem Statement.planSource_eq (caseSensitive : Bool) (s : Statement) (cs : Correlations) :
    s.planSource caseSensitive cs =
      JoinNode.planAll caseSensitive s.joins (.start s.table (s.aliasName.getD "") cs) >>= fun p =>
        Expression.planAll caseSensitive s.expressions p >>= fun p => p.narrow caseSensitive s := by
  obtain ⟨table, aliasName, operands, condition, joins, groupBy, having, sorts, skip, limit⟩ := s
  rw [Statement.planSource]
  simp only [Statement.expressions, Expression.planAll_append, OutputColumn.planAll_eq,
    SortKey.planAll_eq, Expression.planOption_eq, bind_assoc]

/-- The subqueries of a statement, outside of its join conditions. -/
def Statement.HasSubquery (s : Statement) (a : Aggregate) : Prop :=
  ∃ e ∈ s.expressions, e.HasSubquery a

theorem Statement.exists_of_planSource {caseSensitive : Bool} {s : Statement} {cs : Correlations}
    {q : Planning} {g : Grouping} (h : s.planSource caseSensitive cs = .ok (q, g)) :
    ∃ joined p : Planning,
      JoinNode.planAll caseSensitive s.joins (.start s.table (s.aliasName.getD "") cs) =
        .ok joined ∧
      Planning.Adds caseSensitive s.HasSubquery joined p ∧
      p.narrow caseSensitive s = .ok (q, g) := by
  rw [Statement.planSource_eq] at h
  obtain ⟨joined, hJoined, h⟩ := exists_of_bind_eq_ok h
  obtain ⟨p, hPlanned, hNarrow⟩ := exists_of_bind_eq_ok h
  have hAdds := Expression.adds_planAll (fun e _ p q h => Expression.adds_plan e h) hPlanned
  exact ⟨joined, p, hJoined, hAdds, hNarrow⟩

theorem Statement.correlations_planSource {caseSensitive : Bool} {s : Statement}
    {cs : Correlations} {q : Planning} {g : Grouping}
    (h : s.planSource caseSensitive cs = .ok (q, g)) : q.scope.correlations = cs := by
  obtain ⟨joined, p, hJoined, hAdds, hNarrow⟩ := Statement.exists_of_planSource h
  have hJoins := (JoinNode.planAll_scope s.joins hJoined).1
  rw [(Planning.extends_narrow hNarrow).2, hAdds.grows.correlations, hJoins]
  rfl

/-- Every subquery of a planned statement, or one of the same signature, has been attached. -/
theorem Statement.exists_attached {caseSensitive : Bool} {s : Statement} {cs : Correlations}
    {q : Planning} {g : Grouping} (h : s.planSource caseSensitive cs = .ok (q, g)) {a : Aggregate}
    (ha : s.HasSubquery a) (hStatement : a.statement ≠ none) :
    ∃ b s' inner g' lookup, s.HasSubquery b ∧ b.signature = a.signature ∧
      q.Attached caseSensitive b s' inner g' lookup := by
  obtain ⟨joined, p, hJoined, hAdds, hNarrow⟩ := Statement.exists_of_planSource h
  have hNothing : joined.scope.subqueries = [] := (JoinNode.planAll_scope s.joins hJoined).2
  obtain ⟨field, hField⟩ := Option.isSome_iff_exists.mp (hAdds.known a ha hStatement)
  obtain hEarlier | ⟨b, s', inner, g', lookup, hb, hSignature, hAttached⟩ :=
    hAdds.origin a.signature field hField
  · rw [Scope.subqueryField?, hNothing] at hEarlier
    cases hEarlier
  · exact ⟨b, s', inner, g', lookup, hb, hSignature,
      hAttached.extend (Planning.extends_narrow hNarrow).1⟩

end RelPipe
