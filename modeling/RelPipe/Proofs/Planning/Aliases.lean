import RelPipe.Proofs.Planning.Nesting
import RelPipe.Proofs.Planning.Steps
import RelPipe.Proofs.Scoping.Levels

/-!
The aliases that a planned statement knows. The analysis of outer columns collects the aliases that
a statement declares, and planning makes the aliases of joins known one by one as it attaches them.
Where each join has an alias or a table, both come to the same names in the same order and spelling,
in the statement itself and in the statements of its subqueries at any depth.
-/

namespace RelPipe

set_option autoImplicit false

/-! The table of a planned statement -/

/-- Every join of a statement has an alias or a table. -/
def Statement.NamesJoins (s : Statement) : Prop :=
  ∀ n ∈ s.joinNodes, n.table ≠ "" ∨ ∃ name, n.aliasName = some name ∧ name ≠ ""

theorem JoinNode.declaredAlias_ne_empty {n : JoinNode}
    (h : n.table ≠ "" ∨ ∃ name, n.aliasName = some name ∧ name ≠ "") : n.declaredAlias ≠ "" := by
  unfold declaredAlias
  obtain hTable | ⟨name, hName, hSome⟩ := h
  · split
    · split
      · exact hTable
      · assumption
    · exact hTable
  · rw [hName]
    dsimp only
    rwa [if_neg hSome]

def JoinNode.pathOfAlias (n : JoinNode) : String × String := (n.declaredAlias, n.declaredAlias)

theorem JoinNode.aliases_planOne {caseSensitive : Bool} {n : JoinNode} {p q : Planning}
    (hNamed : n.declaredAlias ≠ "") (h : n.planOne caseSensitive p = .ok q) :
    q.scope.aliases = p.scope.aliases.register n.declaredAlias n.declaredAlias := by
  obtain ⟨_, _, _, rfl⟩ := exists_of_planOne h
  rw [← fieldAt_eq_declaredAlias hNamed p]
  rfl

theorem JoinNode.aliases_foldlM {caseSensitive : Bool} {nodes : List JoinNode}
    (hNamed : ∀ n ∈ nodes, n.declaredAlias ≠ "") {p q : Planning}
    (h : nodes.foldlM (fun p n => n.planOne caseSensitive p) p = .ok q) :
    q.scope.aliases =
      { p.scope.aliases with
        paths := p.scope.aliases.paths.insertAll (nodes.map pathOfAlias) } := by
  induction nodes generalizing p with
  | nil =>
    cases h
    rfl
  | cons n nodes ih =>
    obtain ⟨hFirst, hRest⟩ := List.forall_mem_cons.mp hNamed
    rw [List.foldlM_cons] at h
    obtain ⟨one, hOne, h⟩ := exists_of_bind_eq_ok h
    rw [ih hRest h, aliases_planOne hFirst hOne]
    rfl

theorem Statement.aliases_planSource {caseSensitive : Bool} {s : Statement} {cs : Correlations}
    {q : Planning} {g : Grouping} (hNamed : s.NamesJoins)
    (h : s.planSource caseSensitive cs = .ok (q, g)) :
    q.scope.aliases =
      ⟨s.aliasName.getD "",
        .ofList ((s.aliasName.getD "", "") :: s.joinNodes.map JoinNode.pathOfAlias)⟩ := by
  obtain ⟨joined, p, hJoined, hAdds, hNarrow⟩ := Statement.exists_of_planSource h
  rw [JoinNode.planAll_eq_foldlM] at hJoined
  have hAliases : ∀ n ∈ s.joinNodes, n.declaredAlias ≠ "" := fun n hn =>
    JoinNode.declaredAlias_ne_empty (hNamed n hn)
  rw [(Planning.extends_narrow hNarrow).2, hAdds.grows.aliases,
    JoinNode.aliases_foldlM hAliases hJoined]
  rfl

/-- The last join under an alias, in any spelling of it. -/
def Statement.lastJoin? (s : Statement) (name : String) : Option JoinNode :=
  (s.joinNodes.filter fun n => CaselessMap.sameName n.declaredAlias name).getLast?

/-- A table knows the aliases that a statement declares, and no others: the root and each join, in
their order and with the spelling that comes first. An alias of joins leads to the last of these,
and that of the root alone leads to the document itself. -/
structure AliasTable.Registers (t : AliasTable) (s : Statement) : Prop where
  root : t.root = s.aliasName.getD ""
  names : t.paths.keys = s.declared.keys
  joined : ∀ name n, s.lastJoin? name = some n → t.paths.get? name = some n.declaredAlias
  rooted : ∀ name, CaselessMap.sameName (s.aliasName.getD "") name = true →
    s.lastJoin? name = none → t.paths.get? name = some ""

theorem Statement.get?_aliases (s : Statement) (name : String) :
    CaselessMap.get? (.ofList ((s.aliasName.getD "", "") :: s.joinNodes.map JoinNode.pathOfAlias))
        name =
      ((s.lastJoin? name).map JoinNode.declaredAlias).or
        (if CaselessMap.sameName (s.aliasName.getD "") name then some "" else none) := by
  have hRoot : CaselessMap.ofList
        ((s.aliasName.getD "", "") :: s.joinNodes.map JoinNode.pathOfAlias) =
      (CaselessMap.empty.insert (s.aliasName.getD "") "").insertAll
        (s.joinNodes.map JoinNode.pathOfAlias) := rfl
  rw [hRoot, CaselessMap.get?_insertAll, CaselessMap.get?_insert, List.filter_map,
    List.getLast?_map, Option.map_map]
  rfl

theorem Statement.registers_of_planSource {caseSensitive : Bool} {s : Statement}
    {cs : Correlations} {q : Planning} {g : Grouping} (hNamed : s.NamesJoins)
    (h : s.planSource caseSensitive cs = .ok (q, g)) : q.scope.aliases.Registers s := by
  rw [Statement.aliases_planSource hNamed h]
  constructor
  case root => rfl
  case names =>
    rw [declared, declaredAliases, CaselessMap.ofList, CaselessMap.keys_insertAll,
      CaselessMap.ofList, CaselessMap.keys_insertAll]
    simp [CaselessMap.empty, CaselessMap.keys, JoinNode.pathOfAlias, joinNodes, Function.comp_def]
  case joined =>
    intro name n hLast
    rw [s.get?_aliases, hLast]
    rfl
  case rooted =>
    intro name hName hNone
    rw [s.get?_aliases, hNone, hName]
    rfl

/-! Contexts of subqueries -/

/-- The context of a statement that has been planned with some variables. -/
def Statement.HasContext (caseSensitive : Bool) (s : Statement) (c : Context) : Prop :=
  ∃ cs p, s.planSource caseSensitive cs = .ok (p, c.grouping) ∧ c.scope = p.scope ∧
    c.subqueries = p.subqueries

/-- The contexts of subqueries in a context, at any depth. -/
inductive Context.Within : Context → Context → Prop where
  | own {c : Context} {entry : String × Context} (h : entry ∈ c.subqueries) : Within entry.2 c
  | inner {c d : Context} {entry : String × Context} (h : entry ∈ c.subqueries)
    (hInner : Within d entry.2) : Within d c

namespace Planning

variable {caseSensitive : Bool} {wanted : Aggregate → Prop} {p q : Planning}

/-- The contexts planned so far are those of wanted subqueries. -/
def Answers (caseSensitive : Bool) (wanted : Aggregate → Prop) (p : Planning) : Prop :=
  ∀ entry ∈ p.subqueries, ∃ a t, wanted a ∧ a.statement = some t ∧
    t.HasContext caseSensitive entry.2

theorem subqueries_filter {site : Site} {condition : Option Expression}
    (h : p.filter site condition = .ok q) : q.subqueries = p.subqueries := by
  cases condition with
  | none =>
    cases h
    rfl
  | some e =>
    obtain ⟨body, _, h⟩ := exists_of_bind_eq_ok h
    cases h
    rfl

theorem subqueries_narrow {s : Statement} {g : Grouping}
    (h : p.narrow caseSensitive s = .ok (q, g)) : q.subqueries = p.subqueries := by
  obtain ⟨filtered, grouped, hFiltered, hGrouped, hKept⟩ := exists_of_narrow h
  rw [subqueries_filter hKept, ← subqueries_filter hFiltered]
  obtain rfl | ⟨body, rfl⟩ := hGrouped
  · rfl
  · rfl

theorem subqueries_project {site : Site} {s : Statement} {names : List String}
    (h : p.project site s names = .ok q) : q.subqueries = p.subqueries := by
  obtain ⟨projection, _, h⟩ := exists_of_bind_eq_ok h
  obtain ⟨sorting, _, h⟩ := exists_of_bind_eq_ok h
  cases h
  split
  · rfl
  · rfl

theorem Answers.attach (h : p.Answers caseSensitive wanted) {a : Aggregate} (ha : wanted a)
    (hAttaches : Attaches caseSensitive a p q) : q.Answers caseSensitive wanted := by
  obtain @⟨kind, target, s, _, inner, reduced, g, hPlanned, hReduced⟩ := hAttaches
  obtain ⟨_, _, _, _, rfl⟩ := exists_of_reduce hReduced
  intro entry hEntry
  obtain hEntry | hEntry := List.mem_append.mp hEntry
  · exact h entry hEntry
  · obtain rfl := List.mem_singleton.mp hEntry
    exact ⟨_, s, ha, rfl, _, inner, hPlanned, rfl, rfl⟩

theorem Answers.attachAll (h : p.Answers caseSensitive wanted)
    (hAttaches : AttachesAll caseSensitive wanted p q) : q.Answers caseSensitive wanted := by
  induction hAttaches with
  | refl => exact h
  | tail _ hStep ih =>
    obtain ⟨a, ha, hStep⟩ := hStep
    exact ih.attach ha hStep

theorem Answers.join (h : p.Answers caseSensitive wanted) {n : JoinNode}
    (hCondition : ∀ e, n.condition = some e → ∀ a, e.HasSubquery a → wanted a)
    (hPlanned : n.planOne caseSensitive p = .ok q) : q.Answers caseSensitive wanted := by
  obtain ⟨inner, joined, ⟨hInner, hJoined⟩, rfl⟩ := JoinNode.exists_of_planOne hPlanned
  rw [Expression.planOption_eq] at hInner
  have hAttaches := Expression.attachesAll_planAll (fun e _ _ _ => e.attachesAll_plan) hInner
  have hStart : (n.startAt p).Answers caseSensitive wanted := h
  have hKept : inner.Answers caseSensitive wanted := hStart.attachAll <| hAttaches.mono <| by
    rintro a ⟨e, he, ha⟩
    exact hCondition e (Option.mem_toList.mp he) a ha
  intro entry hEntry
  refine hKept entry ?_
  rw [← subqueries_filter hJoined]
  exact hEntry

theorem Answers.joinAll (h : p.Answers caseSensitive wanted) {ns : List JoinNode}
    (hConditions : ∀ n ∈ JoinNode.preorder ns, ∀ e, n.condition = some e →
      ∀ a, e.HasSubquery a → wanted a)
    (hPlanned : JoinNode.PlansAll caseSensitive ns p q) : q.Answers caseSensitive wanted := by
  induction hPlanned with
  | refl => exact h
  | tail _ hStep ih =>
    obtain ⟨n, hn, hStep⟩ := hStep
    exact ih.join (hConditions n hn) hStep

end Planning

/-- The contexts in that of a statement are those of subqueries that the statement holds. -/
theorem Statement.answers_planSource {caseSensitive : Bool} {s : Statement} {cs : Correlations}
    {q : Planning} {g : Grouping} (h : s.planSource caseSensitive cs = .ok (q, g)) :
    q.Answers caseSensitive s.Holds := by
  obtain ⟨joined, planned, hJoined, hPlanned, hNarrow⟩ := Statement.exists_steps h
  have hStart : (Planning.start s.table (s.aliasName.getD "") cs).Answers caseSensitive s.Holds :=
    nofun
  have hJoins := hStart.joinAll (fun n hn e he a ha => .inr ⟨n, hn, e, he, ha⟩) hJoined
  have hOwn := hJoins.attachAll (hPlanned.mono fun a ha => .inl ha)
  intro entry hEntry
  rw [Planning.subqueries_narrow hNarrow] at hEntry
  exact hOwn entry hEntry

theorem Statement.HasContext.exists_own {caseSensitive : Bool} {s : Statement} {c : Context}
    (h : s.HasContext caseSensitive c) {entry : String × Context} (hEntry : entry ∈ c.subqueries) :
    ∃ a t, s.Holds a ∧ a.statement = some t ∧ t.HasContext caseSensitive entry.2 := by
  obtain ⟨cs, p, hPlanned, -, hSubqueries⟩ := h
  rw [hSubqueries] at hEntry
  exact Statement.answers_planSource hPlanned entry hEntry

theorem Statement.HasContext.exists_within {caseSensitive : Bool} {s : Statement} {c d : Context}
    (h : s.HasContext caseSensitive c) (hWithin : d.Within c) :
    ∃ a t, s.Nests a ∧ a.statement = some t ∧ t.HasContext caseSensitive d := by
  induction hWithin generalizing s with
  | own hEntry =>
    obtain ⟨a, t, ha, ht, hContext⟩ := h.exists_own hEntry
    exact ⟨a, t, .own ha, ht, hContext⟩
  | inner hEntry _ ih =>
    obtain ⟨a, t, ha, ht, hContext⟩ := h.exists_own hEntry
    obtain ⟨b, u, hb, hu, hContext'⟩ := ih hContext
    exact ⟨b, u, .inner ha ht hb, hu, hContext'⟩

theorem Statement.HasContext.registers {caseSensitive : Bool} {s : Statement} {c : Context}
    (h : s.HasContext caseSensitive c) (hNamed : s.NamesJoins) : c.scope.aliases.Registers s := by
  obtain ⟨cs, p, hPlanned, hScope, -⟩ := h
  rw [hScope]
  exact Statement.registers_of_planSource hNamed hPlanned

theorem Statement.hasContext_of_compile {caseSensitive : Bool} {s : Statement} {plan : Plan}
    {context : Context} (h : s.compile caseSensitive = .ok (plan, context)) :
    s.HasContext caseSensitive context := by
  obtain ⟨⟨p, g⟩, hPlanned, h⟩ := exists_of_bind_eq_ok h
  obtain ⟨q, hProjected, h⟩ := exists_of_bind_eq_ok h
  cases h
  exact ⟨[], p, hPlanned, (Planning.extends_project hProjected).1,
    Planning.subqueries_project hProjected⟩

/-- The aliases that a compiled statement knows are those that it declares, if each of its joins has
an alias or a table, and the same is true of each subquery that has a context in it. -/
theorem Statement.aliases_are_declared {caseSensitive : Bool} {s : Statement} {plan : Plan}
    {context : Context} (h : s.compile caseSensitive = .ok (plan, context)) :
    (s.NamesJoins → context.scope.aliases.Registers s) ∧
      ∀ inner : Context, inner.Within context →
        ∃ a t, s.Nests a ∧ a.statement = some t ∧ t.HasContext caseSensitive inner ∧
          (t.NamesJoins → inner.scope.aliases.Registers t) := by
  have hContext := Statement.hasContext_of_compile h
  refine ⟨hContext.registers, fun inner hWithin => ?_⟩
  obtain ⟨a, t, ha, ht, hInner⟩ := hContext.exists_within hWithin
  exact ⟨a, t, ha, ht, hInner, hInner.registers⟩

/-- A subquery with a join below a join. The lower one has the alias of the root. -/
def Statement.itemsWithBrands : Statement :=
  ⟨"Items", some "i", [], none,
    [⟨"Products", some "p", .inner, none, [⟨"Brands", some "I", .left, none, []⟩]⟩], [], none, [],
    none, none⟩

def Statement.ordersWithCustomers : Statement :=
  ⟨"Orders", some "o", [], some (.aggregate ⟨.exists, none, some itemsWithBrands⟩),
    [⟨"Customers", some "c", .inner, none, [⟨"Regions", none, .left, none, []⟩]⟩,
      ⟨"Companies", some "C", .left, none, []⟩], [], none, [], none, none⟩

theorem Statement.not_holds_itemsWithBrands (a : Aggregate) : ¬ itemsWithBrands.Holds a := by
  rintro (⟨e, he, -⟩ | ⟨n, _ | ⟨_, _ | ⟨_, ⟨⟩⟩⟩, e, he, -⟩)
  all_goals cases he

theorem Statement.eq_of_nests_ordersWithCustomers {a : Aggregate}
    (h : ordersWithCustomers.Nests a) : a = ⟨.exists, none, some itemsWithBrands⟩ := by
  have hHolds : ∀ b, ordersWithCustomers.Holds b → b = ⟨.exists, none, some itemsWithBrands⟩ := by
    rintro b (⟨e, he, hb⟩ | ⟨n, _ | ⟨_, _ | ⟨_, _ | ⟨_, ⟨⟩⟩⟩⟩, e, he, -⟩)
    · obtain rfl := List.mem_singleton.mp he
      cases hb with
      | self => rfl
      | child hc _ => cases hc
    all_goals cases he
  cases h with
  | own h => exact hHolds a h
  | inner h hStatement hInner =>
    obtain rfl := hHolds _ h
    cases hStatement
    cases hInner with
    | own h => exact absurd h (not_holds_itemsWithBrands _)
    | inner h _ _ => exact absurd h (not_holds_itemsWithBrands _)

theorem Statement.aliases_are_declared_ordersWithCustomers :
    ∃ plan context field inner, ordersWithCustomers.compile false = .ok (plan, context) ∧
      (field, inner) ∈ context.subqueries ∧
      context.scope.aliases.paths.keys = ["o", "c", "Regions"] ∧
      context.scope.aliases.paths.get? "c" = some "C" ∧
      context.scope.aliases.paths.get? "O" = some "" ∧
      inner.scope.aliases.paths.keys = ["i", "p"] ∧
      inner.scope.aliases.paths.get? "i" = some "I" := by
  obtain ⟨plan, context, field, inner, hCompiled, hInner⟩ :
      ∃ plan context field inner, ordersWithCustomers.compile false = .ok (plan, context) ∧
        (field, inner) ∈ context.subqueries := ⟨_, _, _, _, rfl, .head _⟩
  have hNamed : ordersWithCustomers.NamesJoins := by
    rintro n (_ | ⟨_, _ | ⟨_, _ | ⟨_, ⟨⟩⟩⟩⟩)
    all_goals exact .inl (by decide)
  have hNamed' : itemsWithBrands.NamesJoins := by
    rintro n (_ | ⟨_, _ | ⟨_, ⟨⟩⟩⟩)
    all_goals exact .inl (by decide)
  obtain ⟨hOwn, hWithin⟩ := aliases_are_declared hCompiled
  obtain ⟨a, t, ha, ht, -, hRegisters⟩ := hWithin inner (.own hInner)
  obtain rfl := eq_of_nests_ordersWithCustomers ha
  cases ht
  have hOrders := hOwn hNamed
  have hItems := hRegisters hNamed'
  refine ⟨plan, context, field, inner, hCompiled, hInner, ?_, ?_, ?_, ?_, ?_⟩
  · rw [hOrders.names]
    decide
  · exact hOrders.joined "c" ⟨"Companies", some "C", .left, none, []⟩ rfl
  · exact hOrders.rooted "O" (by decide) rfl
  · rw [hItems.names]
    decide
  · exact hItems.joined "i" ⟨"Brands", some "I", .left, none, []⟩ rfl

end RelPipe
