import RelPipe.Proofs.Planning.Varied
import RelPipe.Proofs.Projection.Stages

/-!
The stages that shape results, in two runs of the compiler. If the operands have the same field
names in both, then the second run projects, sorts and drops the fields that the first does. With
the stages before the projection this is the whole plan of a statement.
-/

namespace RelPipe

set_option autoImplicit false

variable {caseSensitive caseSensitive' : Bool} {m : Variation caseSensitive caseSensitive'}

theorem Fields.mem_insert {α : Type} {fields : Fields α} {name : String} {v : α} {e : String × α}
    (h : e ∈ insert fields name v) : e ∈ fields ∨ e = (name, v) := by
  induction fields with
  | nil => exact .inr (List.mem_singleton.mp h)
  | cons field fields ih =>
    obtain ⟨key, old⟩ := field
    rw [insert] at h
    split at h
    · rename_i hKey
      subst hKey
      obtain rfl | h := List.mem_cons.mp h
      · exact .inr rfl
      · exact .inl (.tail _ h)
    · obtain rfl | h := List.mem_cons.mp h
      · exact .inl (.head _)
      · exact (ih h).imp_left (.tail _)

namespace Document.Varies

variable {d d' : Document} {name : String} {v v' : Value}

theorem insert (h : Document.Varies m d d') (hv : m.Turns v v')
    (hSearch : name = "$regexMatch" → ∀ body, v ≠ .document body) :
    Document.Varies m (Fields.insert d name v) (Fields.insert d' name v') where
  fields := by rw [h.fields, hv, Fields.insert_map]
  searches e he := by
    obtain he | rfl := Fields.mem_insert he
    · exact h.searches e he
    · exact hSearch

theorem insert_atom (h : Document.Varies m d d') (name : String) (hv : v.isAtom = true) :
    Document.Varies m (Fields.insert d name v) (Fields.insert d' name v) := by
  refine h.insert (m.value_atom hv).symm ?_
  rintro - body rfl
  cases hv

theorem insertAll_atoms {pairs : List (String × Value)} (h : Document.Varies m d d')
    (hAtoms : ∀ e ∈ pairs, e.2.isAtom = true) :
    Document.Varies m (Fields.insertAll d pairs) (Fields.insertAll d' pairs) := by
  induction pairs generalizing d d' with
  | nil => exact h
  | cons pair pairs ih =>
    obtain ⟨hHead, hTail⟩ := List.forall_mem_cons.mp hAtoms
    exact ih (h.insert_atom _ hHead) hTail

end Document.Varies

theorem Operand.Varies.projected {o o' : Operand} (h : o.Varies m o') :
    m.Turns o.projected o'.projected := by
  cases h with
  | field path => exact Operand.Varies.render (.field path)
  | computed v => rfl
  | @constant v hv =>
    have hLiteral : m.Turns (.single "$literal" v) (.single "$literal" v) := by
      rw [Variation.Turns, Variation.value_single (by decide), m.value_atom hv]
    cases v with
    | string s => exact Operand.Varies.render (.constant hv)
    | _ => exact hLiteral

/-! Fields that are projected -/

variable (m) in
/-- The second run has projected the fields that the first has. -/
structure Projection.Varies (p p' : Projection) : Prop where
  stage : Document.Varies m p.stage p'.stage
  fields : p'.fields = p.fields
  names : p'.names = p.names

variable (m) in
/-- The second run sorts by the fields that the first sorts by. -/
structure Projection.Sorting.Varies (s s' : Sorting) : Prop where
  stage : Document.Varies m s.stage s'.stage
  order : Document.Varies m s.order s'.order
  hasHelpers : s'.hasHelpers = s.hasHelpers

theorem Expression.sortsCaselessly_requalify (f : String → String) (e : Expression) :
    (e.requalify f).sortsCaselessly = e.sortsCaselessly := by
  cases e <;> rfl

namespace Projection

variable {p p' : Projection}

theorem Varies.empty : Projection.empty.Varies m Projection.empty :=
  ⟨.single (by decide) (m.value_atom rfl).symm, rfl, rfl⟩

theorem follows_addAll (scope : Scope) (g : Grouping) {columns : List (OutputColumn × String)}
    (hNames : ∀ column ∈ columns, column.2 ≠ "$regexMatch") (h : p.Varies m p') :
    m.Follows (Projection.Varies m) (p.addAll (m.before scope g) columns)
      (p'.addAll (m.after scope g)
        (columns.map (Prod.map (OutputColumn.requalify m.qualifier) id))) := by
  induction columns generalizing p p' with
  | nil => exact .ok h
  | cons column columns ih =>
    obtain ⟨o, name⟩ := column
    obtain ⟨hName, hNames⟩ := List.forall_mem_cons.mp hNames
    have hColumn : m.Follows (Projection.Varies m) (p.add (m.before scope g) o name)
        (p'.add (m.after scope g) (o.requalify m.qualifier) name) := by
      rw [add, add, OutputColumn.expression_requalify]
      refine (m.compiles scope g o.expression).operand.bind fun _ _ ho => .ok ?_
      rw [h.fields, h.names, o.expression.signature_requalify m.keepsCaseless]
      exact ⟨h.stage.insert ho.projected fun hSearch => absurd hSearch hName, rfl, rfl⟩
    exact hColumn.bind fun _ _ hq => ih hNames hq

theorem sortTarget_requalify (p : Projection) {f : String → String} (hf : KeepsCaseless f)
    (g : Grouping) (e : Expression) :
    p.sortTarget (g.requalify f) (e.requalify f) = p.sortTarget g e := by
  have hNamed : p.namedField? (e.requalify f) = p.namedField? e := by
    cases e <;> rfl
  unfold sortTarget
  rw [e.sortsCaselessly_requalify, e.signature_requalify hf, hNamed, g.isEmpty_requalify,
    g.covers_requalify hf]

theorem follows_sortValue (scope : Scope) (g : Grouping) (e : Expression) :
    m.Follows m.Turns (sortValue (m.before scope g) e)
      (sortValue (m.after scope g) (e.requalify m.qualifier)) := by
  have hAggregate : (m.after scope g).grouping.aggregate? (e.requalify m.qualifier).signature =
      (g.aggregate? e.signature).map (GroupAggregate.requalify m.qualifier) := by
    rw [e.signature_requalify m.keepsCaseless]
    exact g.aggregate?_requalify m.keepsCaseless _
  unfold sortValue
  rw [hAggregate, show (m.before scope g).grouping = g from rfl]
  cases g.aggregate? e.signature with
  | some a => exact .ok (m.value_atom rfl).symm
  | none => exact (m.compiles scope g e).operand.map fun _ _ ho => ho.projected

theorem isAtom_direction (direction : SortDirection) :
    (Projection.direction direction).isAtom = true := by
  cases direction <;> rfl

theorem sortName_ne (index : Nat) : "_sort" ++ Text.Numeral.ofNat index ≠ "$regexMatch" := by
  intro h
  have hHead := congrArg (fun name => name.toList.head?) h
  simp at hHead

theorem follows_addSorts (hp : p.Varies m p') (scope : Scope) (g : Grouping) {s s' : Sorting}
    (h : s.Varies m s') (index : Nat) (keys : List SortKey) :
    m.Follows (Sorting.Varies m) (p.addSorts (m.before scope g) s index keys)
      (p'.addSorts (m.after scope g) s' index (keys.map (SortKey.requalify m.qualifier))) := by
  induction keys generalizing index s s' with
  | nil => exact .ok h
  | cons key keys ih =>
    have hTarget : p'.sortTarget (m.after scope g).grouping (key.expression.requalify m.qualifier) =
        p.sortTarget (m.before scope g).grouping key.expression := by
      rw [sortTarget_congr hp.fields hp.names]
      exact p.sortTarget_requalify m.keepsCaseless g key.expression
    rw [List.map_cons, addSorts, addSorts, SortKey.expression_requalify,
      SortKey.direction_requalify, hTarget]
    cases p.sortTarget (m.before scope g).grouping key.expression with
    | nothing => exact ih h _
    | field name =>
      have hs : Sorting.Varies m
          { s with order := Fields.insert s.order name (direction key.direction) }
          { s' with order := Fields.insert s'.order name (direction key.direction) } :=
        ⟨h.stage, h.order.insert_atom name (isAtom_direction _), h.hasHelpers⟩
      exact ih hs _
    | helper caseless =>
      refine (follows_sortValue scope g key.expression).bind fun v v' hv => ?_
      have hTurned : m.Turns (if caseless then .single "$toLower" v else v)
          (if caseless then .single "$toLower" v' else v') := by
        cases caseless with
        | false => exact hv
        | true => exact m.congruence.single (by decide) hv
      have hStage := h.stage.insert hTurned fun hSearch => absurd hSearch (sortName_ne index)
      have hOrder := h.order.insert_atom ("_sort" ++ Text.Numeral.ofNat index)
        (isAtom_direction key.direction)
      have hs : Sorting.Varies m ⟨_, _, true⟩ ⟨_, _, true⟩ := ⟨hStage, hOrder, rfl⟩
      exact ih hs _

theorem varies_final (h : p.Varies m p') : Document.Varies m p.final p'.final := by
  rw [final, final, h.names]
  refine Document.Varies.insertAll_atoms (.single (by decide) (m.value_atom rfl).symm) ?_
  intro e he
  obtain ⟨name, -, rfl⟩ := List.mem_map.mp he
  rfl

end Projection

/-! The whole plan -/

theorem Plan.vary_addPaging (p : Plan) (kind : StageKind) (n? : Option UInt64) :
    (p.vary m).addPaging kind n? = (p.addPaging kind n?).vary m := by
  have hStages : (Stage.paging kind n?).map
      (fun stage => Stage.mk stage.kind (m.value stage.body)) = Stage.paging kind n? := by
    unfold Stage.paging
    split
    · rfl
    · split
      · rfl
      · rw [List.map_singleton, pagingValue, m.value_atom rfl]
  rw [addPaging_eq, addPaging_eq, vary, vary, List.map_append, hStages]

theorem Planning.Varies.project {p p' : Planning} (h : p.Varies m p') (g : Grouping)
    (s : Statement) : m.Follows (Planning.Varies m)
      (p.project (m.before p.scope g) s (OutputColumn.fieldNames s.operands))
      (p'.project (m.after p.scope g) (s.requalify m.qualifier)
        (OutputColumn.fieldNames s.operands)) := by
  have hNames : ∀ column ∈ s.operands.zip (OutputColumn.fieldNames s.operands),
      column.2 ≠ "$regexMatch" := by
    rintro column hColumn hName
    have hDollar := OutputColumn.not_mem_fieldNames (.inr rfl) (List.of_mem_zip hColumn).2
    rw [hName] at hDollar
    revert hDollar
    decide
  rw [Statement.requalify_eq]
  unfold Planning.project
  dsimp only
  rw [List.zip_map_left]
  refine (Projection.follows_addAll p.scope g hNames .empty).bind fun q q' hq => ?_
  have hStart : Projection.Sorting.Varies m ⟨q.stage, [], false⟩ ⟨q'.stage, [], false⟩ :=
    ⟨hq.stage, .nil, rfl⟩
  refine (Projection.follows_addSorts hq p.scope g hStart 0 s.sorts).bind fun r r' hr => .ok ?_
  have hSorted := (h.add .project hr.stage).add .sort hr.order
  have hKept := hSorted.add .project (Projection.varies_final hq)
  have hPaged : ∀ {p p' : Planning}, p.Varies m p' →
      Planning.Varies m { p with plan := (p.plan.addPaging .skip s.skip).addPaging .limit s.limit }
        { p' with plan := (p'.plan.addPaging .skip s.skip).addPaging .limit s.limit } := by
    intro p p' h
    refine ⟨h.scope, ?_, h.subqueries, h.bindings⟩
    dsimp only
    rw [h.plan, Plan.vary_addPaging, Plan.vary_addPaging]
  rw [hr.hasHelpers]
  cases r.hasHelpers with
  | false => exact hPaged hSorted
  | true => exact hPaged hKept

/-- Where the field names of the operands stay as they are, the plan of a statement is the same in
both runs but for its values, and the context is the same but for its qualifiers. -/
theorem Statement.follows_compile (m : Variation caseSensitive caseSensitive') {s : Statement}
    (hNames : OutputColumn.fieldNames (s.requalify m.qualifier).operands =
      OutputColumn.fieldNames s.operands) :
    m.Follows (fun r r' => r'.1 = r.1.vary m ∧ r'.2 = r.2.requalify m.qualifier)
      (s.compile caseSensitive) ((s.requalify m.qualifier).compile caseSensitive') := by
  unfold Statement.compile
  rw [hNames]
  refine (s.plansVaried [] (List.forall_mem_nil _)).bind ?_
  rintro ⟨p, g⟩ ⟨p', _⟩ ⟨hp, rfl⟩
  have hProjected := hp.project g s
  dsimp only
  rw [hp.scope]
  refine hProjected.bind fun q q' hq => .ok ⟨hq.plan, ?_⟩
  rw [hq.scope, hq.subqueries, hq.plan, Context.requalify]
  rfl

end RelPipe
