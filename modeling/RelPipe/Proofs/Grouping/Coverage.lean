import RelPipe.Proofs.Grouping.Readable

/-!
The expressions that a grouping covers. They are tested as they are written, but a negation is
compiled as the complement of its operand: where the operand is a key and its complement is not, the
key is lost. Every other covered expression reads the keys and the aggregates only.
-/

namespace RelPipe

set_option autoImplicit false

namespace Grouping

variable {g : Grouping}

theorem isEmpty_of_hasEntry {e : Expression} (h : g.hasEntry e = true) : g.isEmpty = false := by
  obtain ⟨keys, aggregates⟩ := g
  cases keys with
  | cons k keys => rfl
  | nil =>
    cases aggregates with
    | cons a aggregates => rfl
    | nil => cases h

theorem exists_operand?_of_hasEntry {e : Expression} (h : g.hasEntry e = true) :
    (∃ c, e = .constant c) ∨ ∃ o, g.operand? e = some o := by
  have hLookup : (g.keyName? e.signature).isSome = true ∨
      (g.aggregate? e.signature).isSome = true := by
    simpa [hasEntry] using h
  unfold operand?
  rw [isEmpty_of_hasEntry h, if_neg Bool.false_ne_true]
  split
  · rename_i c
    exact .inl ⟨c, rfl⟩
  · refine .inr ?_
    split
    · exact ⟨_, rfl⟩
    · rename_i hKey
      rw [hKey] at hLookup
      obtain ⟨a, ha⟩ := Option.isSome_iff_exists.mp (hLookup.resolve_left (by simp))
      rw [ha]
      exact ⟨_, rfl⟩

/-! Coverage -/

/-- The parts of an expression that lie outside of all entries. An entry that is negated is opened
up as its complement. -/
inductive Exposes (g : Grouping) : Expression → Expression → Prop where
  | self {e : Expression} (hEntry : g.hasEntry e = false) : Exposes g e e
  | child {q c e : Expression} (hEntry : g.hasEntry e = false) (hc : c ∈ e.children)
    (h : Exposes g c q) : Exposes g e q
  | complement {q c e : Expression} (hNone : g.hasEntry (.unary .not e) = false)
    (hEntry : g.hasEntry e = true) (hc : e.complement? = some c) (h : Exposes g c q) :
    Exposes g (.unary .not e) q

theorem not_exposes_of_hasEntry {q e : Expression} (h : g.hasEntry e = true) :
    ¬ g.Exposes e q := by
  intro hExposes
  cases hExposes with
  | self hEntry => exact absurd h (Bool.eq_false_iff.mp hEntry)
  | child hEntry => exact absurd h (Bool.eq_false_iff.mp hEntry)
  | complement hNone => exact absurd h (Bool.eq_false_iff.mp hNone)

theorem coversAll_iff {es : List Expression} :
    g.coversAll es = true ↔ ∀ e ∈ es, g.covers e = true := by
  induction es with
  | nil => simp [coversAll]
  | cons e es ih => rw [coversAll, Bool.and_eq_true, ih, List.forall_mem_cons]

theorem covers_child {e c : Expression} (h : g.covers e = true) (hEntry : g.hasEntry e = false)
    (hc : c ∈ e.children) : g.covers c = true := by
  have hAll : ∀ c ∈ e.children, g.covers c = true := by
    cases e with
    | column ref => exact List.forall_mem_nil _
    | property name => exact List.forall_mem_nil _
    | constant value => exact List.forall_mem_nil _
    | aggregate a =>
      rw [covers, hEntry] at h
      cases h
    | group op es => simpa [covers, hEntry, coversAll_iff, Expression.children] using h
    | call f es => simpa [covers, hEntry, coversAll_iff, Expression.children] using h
    | member l cs => simpa [covers, hEntry, coversAll_iff, Expression.children] using h
    | _ => simpa [covers, hEntry, Expression.children, and_assoc] using h
  exact hAll c hc

end Grouping

namespace Site

variable {site : Site}

/-- The expressions that are read elsewhere than in the grouping although the grouping covers them:
the negation of an entry that is compiled as a complement which the grouping does not cover, and a
search for the empty suffix. -/
inductive Misreads (site : Site) : Expression → Prop where
  | negation {e c : Expression} (hEntry : site.grouping.hasEntry e = true)
    (hc : e.complement? = some c) (hNone : site.grouping.covers c = false) :
    Misreads site (.unary .not e)
  | suffix {f : Function} {es : List Expression} (h : site.SearchesEmptySuffix f es) :
    Misreads site (.call f es)

theorem keeps_of_hasEntry {e : Expression} (h : site.grouping.hasEntry e = true) :
    site.Keeps e := by
  obtain ⟨c, rfl⟩ | ⟨o, ho⟩ := Grouping.exists_operand?_of_hasEntry h
  · exact .constant c
  · exact .entry ho

/-- What a grouping covers is kept, if none of it is read elsewhere. -/
def KeepsIfCovered (site : Site) (e : Expression) : Prop :=
  site.grouping.covers e = true → (∀ q, site.grouping.Exposes e q → ¬ site.Misreads q) →
    site.Keeps e

theorem KeepsIfCovered.of_children {e : Expression}
    (h : site.grouping.hasEntry e = false → (∀ c ∈ e.children, site.Keeps c) → site.Keeps e)
    (hChildren : ∀ c ∈ e.children, site.KeepsIfCovered c) : site.KeepsIfCovered e := by
  intro hCovers hClear
  cases hEntry : site.grouping.hasEntry e with
  | true => exact keeps_of_hasEntry hEntry
  | false =>
    exact h hEntry fun c hc => hChildren c hc (Grouping.covers_child hCovers hEntry hc)
      fun q hq => hClear q (.child hEntry hc hq)

theorem KeepsIfCovered.binary {op : BinaryOp} {l r : Expression} (hl : site.KeepsIfCovered l)
    (hr : site.KeepsIfCovered r) : site.KeepsIfCovered (.binary op l r) := by
  refine .of_children (fun _ h => .binary (h l (.head _)) (h r (.tail _ (.head _)))) ?_
  simpa [Expression.children] using ⟨hl, hr⟩

theorem KeepsIfCovered.group {op : GroupOp} {es : List Expression}
    (h : ∀ e ∈ es, site.KeepsIfCovered e) : site.KeepsIfCovered (.group op es) :=
  .of_children (fun _ h => .group h) h

/-- A negation is computed from the complement of its operand. Where the operand is an entry, its
complement has to be covered as well. -/
theorem KeepsIfCovered.not {e c : Expression} (hc : e.complement? = some c)
    (h : ∀ d ∈ e.children, site.KeepsIfCovered d) : site.KeepsIfCovered (.unary .not e) := by
  intro hCovers hClear
  cases hEntry : site.grouping.hasEntry (.unary .not e) with
  | true => exact keeps_of_hasEntry hEntry
  | false =>
    refine .complement hc ?_
    cases hNegated : site.grouping.hasEntry e with
    | true =>
      have hComplement : site.grouping.covers c = true := by
        by_contra hNone
        exact hClear _ (.self hEntry) (.negation hNegated hc (Bool.eq_false_iff.mpr hNone))
      have hKeeps : site.KeepsIfCovered c :=
        Expression.complement_of_children (fun _ _ _ => .binary) (fun _ _ => .group) hc h
      exact hKeeps hComplement fun q hq => hClear q (.complement hEntry hNegated hc hq)
    | false =>
      have hOperand : site.grouping.covers e = true :=
        Grouping.covers_child hCovers hEntry (.head _)
      refine Expression.complement_of_children (fun _ _ _ => .binary) (fun _ _ => .group) hc ?_
      exact fun d hd => h d hd (Grouping.covers_child hOperand hNegated hd)
        fun q hq => hClear q (.child hEntry (.head _) (.child hNegated hd hq))

theorem keepsIfCovered (e : Expression) : site.KeepsIfCovered e := by
  induction e using Expression.part_induction with
  | step e ih =>
    have hChildren : ∀ c ∈ e.children, site.KeepsIfCovered c := fun c hc => ih c hc c (.self c)
    cases e with
    | column ref => exact fun hCovers _ => keeps_of_hasEntry hCovers
    | property name => exact fun hCovers _ => keeps_of_hasEntry hCovers
    | aggregate a => exact fun hCovers _ => keeps_of_hasEntry hCovers
    | constant c => exact fun _ _ => .constant c
    | unary op e =>
      cases hc : e.complement? with
      | none =>
        exact .of_children (fun _ h => .unary (fun _ => hc) (h e (.head _))) hChildren
      | some c =>
        by_cases hNot : op = .not
        · subst hNot
          exact .not hc fun d hd => ih e (.head _) d (.child hd (.self d))
        · exact .of_children
            (fun _ h => .unary (fun hOp => absurd hOp hNot) (h e (.head _))) hChildren
    | binary op l r => exact .binary (hChildren l (.head _)) (hChildren r (.tail _ (.head _)))
    | between t l u =>
      refine .of_children (fun _ h => ?_) hChildren
      exact .between (h t (.head _)) (h l (.tail _ (.head _))) (h u (.tail _ (.tail _ (.head _))))
    | member l cs =>
      exact .of_children (fun _ h => .member (h l (.head _)) fun c hc => h c (.tail _ hc)) hChildren
    | group op es => exact .group hChildren
    | call f es =>
      intro hCovers hClear
      refine KeepsIfCovered.of_children (fun hEntry h => ?_) hChildren hCovers hClear
      exact .call h fun hSuffix => hClear _ (.self hEntry) (.suffix hSuffix)

/-- What a statement reads of its groups: in an operand, as the group condition, and as a field of
its own to sort by, nothing but keys and aggregates. -/
structure ReadsGroupsOnly (site : Site) (e : Expression) : Prop where
  operand : ∀ o, site.compile e = .ok o → ∀ r ∈ o.projected.references, site.grouping.Provides r
  value : ∀ v, site.value e = .ok v → ∀ r ∈ v.references, site.grouping.Provides r
  filter : ∀ body, site.filterDocument e = .ok body →
    ∀ r ∈ Pipeline.filterReferences body, site.grouping.Provides r
  sort : ∀ v, Projection.sortValue site e = .ok v → ∀ r ∈ v.references, site.grouping.Provides r

theorem Readable.readsGroupsOnly (hg : Grouping.Numbered site.grouping.aggregates)
    {e : Expression} (h : site.Readable e) : site.ReadsGroupsOnly e where
  operand o ho := (h.operand o ho).projected
  value := h.value
  filter body hBody := by
    rw [filterDocument_eq_clauseOf] at hBody
    obtain ⟨f, hf, rfl⟩ := exists_of_map_eq_ok hBody
    exact (h.clause f hf).document
  sort := by
    unfold Projection.sortValue
    split
    · rename_i a ha
      exact Yields.ok (Value.refersWithin_string.mpr fun _ =>
        .aggregateField hg (List.mem_of_find?_eq_some ha))
    · exact h.operand.map fun _ ho => ho.projected

theorem ReadsGroupsOnly.evaluate_eq {e : Expression} (h : site.ReadsGroupsOnly e)
    {env env' : Pipeline.Environment}
    (hAgree : ∀ r, site.grouping.Provides r → env.lookup? r = env'.lookup? r) {v : Value}
    (hv : site.value e = .ok v) : Pipeline.evaluate env v = Pipeline.evaluate env' v := by
  refine Pipeline.evaluate_congr v fun r hr => ?_
  rw [env.reference_eq_lookup?, env'.reference_eq_lookup?, hAgree r (h.value v hv r hr)]

/-- Groups with the same keys and aggregates are kept or dropped together. -/
theorem ReadsGroupsOnly.satisfies_eq {e : Expression} (h : site.ReadsGroupsOnly e)
    {env env' : Pipeline.Environment}
    (hAgree : ∀ r, site.grouping.Provides r → env.lookup? r = env'.lookup? r) {body : Document}
    (hBody : site.filterDocument e = .ok body) :
    Pipeline.satisfies env body = Pipeline.satisfies env' body :=
  Pipeline.satisfies_congr body fun r hr => hAgree r (h.filter body hBody r hr)

/-- An expression that the grouping of a statement covers reads only keys and aggregates, wherever
it stands, unless it negates a key that is compiled as its complement or searches for the empty
suffix. -/
theorem readsGroupsOnly_of_covers (s : Statement) (scope : Scope) (caseSensitive : Bool)
    (e : Expression) (hCovers : (Grouping.ofStatement s).covers e = true)
    (hClear : ∀ q, (Grouping.ofStatement s).Exposes e q →
      ¬ Misreads ⟨scope, .ofStatement s, caseSensitive⟩ q) :
    ReadsGroupsOnly ⟨scope, .ofStatement s, caseSensitive⟩ e := by
  have hNumbered := Grouping.numbered_ofStatement s
  have hKeeps : Keeps ⟨scope, .ofStatement s, caseSensitive⟩ e :=
    keepsIfCovered e hCovers hClear
  exact (readable_of_keeps hNumbered hKeeps).readsGroupsOnly hNumbered

/-- Orders by payment: the unpaid ones, unless there are fewer than two. -/
def manyUnpaid : Expression :=
  .group .and
    [.unary .not (.property "Paid"),
     .unary .not (.binary .less (.aggregate ⟨.count, none, none⟩) (.constant (.int32 2)))]

def byPayment : Statement :=
  { Statement.empty with
    table := "Orders"
    groupBy := [.property "Paid"]
    having := some manyUnpaid }

theorem readsGroupsOnly_manyUnpaid :
    let site : Site := ⟨.rooted "Orders" [], .ofStatement byPayment, false⟩
    site.grouping.covers manyUnpaid = true ∧
      (∀ q, site.grouping.Exposes manyUnpaid q → ¬ site.Misreads q) ∧
      site.ReadsGroupsOnly manyUnpaid := by
  intro site
  have hCovers : site.grouping.covers manyUnpaid = true := rfl
  have hPaid : site.grouping.hasEntry (.property "Paid") = true := rfl
  have hCount : site.grouping.hasEntry (.aggregate ⟨.count, none, none⟩) = true := rfl
  have hClear : ∀ q, site.grouping.Exposes manyUnpaid q → ¬ site.Misreads q := by
    intro q hExposes hMisreads
    cases hExposes with
    | self => cases hMisreads
    | child _ hMember h =>
      obtain rfl | rfl := List.mem_pair.mp hMember
      · cases h with
        | self =>
          -- A column has no complement: its negation is computed from the key.
          cases hMisreads with
          | negation _ hc => cases hc
        | child _ hMember h =>
          obtain rfl := List.mem_singleton.mp hMember
          exact Grouping.not_exposes_of_hasEntry hPaid h
        | complement _ _ hc => cases hc
      · cases h with
        | self =>
          -- The comparison that is negated is no key.
          cases hMisreads with
          | negation hEntry => cases hEntry
        | child _ hMember h =>
          obtain rfl := List.mem_singleton.mp hMember
          cases h with
          | self => cases hMisreads
          | child _ hMember h =>
            obtain rfl | rfl := List.mem_pair.mp hMember
            · exact Grouping.not_exposes_of_hasEntry hCount h
            · cases h with
              | self => cases hMisreads
              | child _ hMember => cases hMember
        | complement _ hEntry => cases hEntry
  exact ⟨hCovers, hClear, readsGroupsOnly_of_covers byPayment (.rooted "Orders" []) false
    manyUnpaid hCovers hClear⟩

def belowThree : Expression :=
  .binary .less (.column ⟨none, "a", .int32⟩) (.constant (.int32 3))

def byBelowThree : Statement :=
  { Statement.empty with
    table := "Items"
    operands := [⟨.unary .not belowThree, none⟩]
    groupBy := [belowThree] }

/-- The negated test is compiled as its complement, which reads the field that was grouped away. -/
theorem not_readsGroupsOnly_notBelowThree :
    let site : Site := ⟨.rooted "Items" [], .ofStatement byBelowThree, false⟩
    site.grouping.covers (.unary .not belowThree) = true ∧
      ¬ site.ReadsGroupsOnly (.unary .not belowThree) := by
  intro site
  refine ⟨rfl, fun h => ?_⟩
  have hProvides : site.grouping.Provides "$a" := h.value _ rfl "$a" (by decide +kernel)
  generalize hRead : "$a" = r at hProvides
  have hChars := congrArg String.toList hRead
  cases hProvides <;> simp at hChars

end Site

end RelPipe
