import RelPipe.Proofs.Compile.Reads
import RelPipe.Proofs.Scoping.Planning

/-!
Compiling an expression fails for want of a planned subquery only at a subquery that stands in the
expression itself. All that is passed on are the failures of its parts.
-/

namespace RelPipe

set_option autoImplicit false

/-- A computation fails for want of a planned subquery only if the subquery has a property. -/
def LacksOnly {α : Type} (P : Aggregate → Prop) (x : Except CompileError α) : Prop :=
  ∀ a, x = .error (.unplannedSubquery a) → P a

section

variable {α β : Type} {P Q : Aggregate → Prop}

theorem LacksOnly.ok (v : α) : LacksOnly P (.ok v) := by
  intro a h
  cases h

theorem LacksOnly.error {err : CompileError} (h : ∀ a, err ≠ .unplannedSubquery a) :
    LacksOnly P (.error err : Except CompileError α) := by
  intro a ha
  exact absurd (Except.error.inj ha) (h a)

theorem LacksOnly.bind {x : Except CompileError α} {f : α → Except CompileError β}
    (hx : LacksOnly P x) (hf : ∀ v, x = .ok v → LacksOnly P (f v)) : LacksOnly P (x.bind f) := by
  cases x with
  | error err =>
    intro a ha
    exact hx a (congrArg Except.error (Except.error.inj ha))
  | ok v => exact hf v rfl

theorem LacksOnly.of_bind {x : Except CompileError α} {f : α → Except CompileError β}
    (h : LacksOnly P (x.bind f)) : LacksOnly P x := by
  rintro a rfl
  exact h a rfl

theorem LacksOnly.map {x : Except CompileError α} (hx : LacksOnly P x) (f : α → β) :
    LacksOnly P (x.map f) := by
  cases x with
  | error err =>
    intro a ha
    exact hx a (congrArg Except.error (Except.error.inj ha))
  | ok v => exact .ok (f v)

theorem LacksOnly.mono {x : Except CompileError α} (hx : LacksOnly P x) (h : ∀ a, P a → Q a) :
    LacksOnly Q x :=
  fun a ha => h a (hx a ha)

end

theorem Argument.lacksOnly_pattern {P : Aggregate → Prop} {a : Argument}
    (h : LacksOnly P a.operand) : LacksOnly P a.pattern := by
  refine h.bind fun o _ => ?_
  split
  · exact .ok _
  · exact .error (by simp)

namespace Call

variable {P : Aggregate → Prop} {args : List Argument}

theorem lacksOnly_values (h : ∀ a ∈ args, LacksOnly P a.operand) : LacksOnly P (values args) := by
  induction args with
  | nil => exact .ok []
  | cons a args ih =>
    obtain ⟨hFirst, hRest⟩ := List.forall_mem_cons.mp h
    exact (hFirst.map _).bind fun v _ => (ih hRest).bind fun vs _ => .ok (v :: vs)

theorem lacksOnly_value (h : ∀ a ∈ args, LacksOnly P a.operand) (index : Nat) :
    LacksOnly P (value args index) := by
  unfold value
  split
  · rename_i a ha
    exact (h a (List.mem_of_getElem? ha)).map _
  · exact .ok _

theorem lacksOnly_optional (h : ∀ a ∈ args, LacksOnly P a.operand) (index : Nat) :
    LacksOnly P (optional args index) := by
  unfold optional
  split
  · rename_i a ha
    exact ((h a (List.mem_of_getElem? ha)).map _).map _
  · exact .ok _

theorem lacksOnly_pattern (h : ∀ a ∈ args, LacksOnly P a.operand) (index : Nat) :
    LacksOnly P (pattern args index) := by
  unfold pattern
  split
  · rename_i a ha
    exact (Argument.lacksOnly_pattern (h a (List.mem_of_getElem? ha))).map _
  · exact .ok _

theorem lacksOnly_template (caseSensitive : Bool) (f : StandardFunction)
    (h : ∀ a ∈ args, LacksOnly P a.operand) : LacksOnly P (template caseSensitive f args) := by
  have hValue := lacksOnly_value h
  have hOptional := lacksOnly_optional h
  have hPattern := lacksOnly_pattern h
  cases f with
  | concat | iif => exact (lacksOnly_values h).bind fun _ _ => .ok _
  | trim | isNullOrEmpty | len | reverse | sign | toInt | toLong =>
    exact (hValue 0).bind fun _ _ => .ok _
  | substring =>
    exact (hValue 0).bind fun _ _ => (hOptional 2).bind fun _ _ => (hValue 1).bind fun _ _ => .ok _
  | replace | remove =>
    exact (hValue 0).bind fun _ _ => (hValue 1).bind fun _ _ => (hOptional 2).bind fun _ _ => .ok _
  | insert =>
    exact (hValue 0).bind fun _ _ => (hValue 1).bind fun _ _ => (hValue 2).bind fun _ _ => .ok _
  | charIndex =>
    exact (hValue 1).bind fun _ _ => (hValue 0).bind fun _ _ => (hOptional 2).bind fun _ _ => .ok _
  | round | atn2 | isNull => exact (hValue 0).bind fun _ _ => (hOptional 1).bind fun _ _ => .ok _
  | power | bigMul => exact (hValue 0).bind fun _ _ => (hValue 1).bind fun _ _ => .ok _
  | contains | startsWith | endsWith =>
    exact (hPattern 1).bind fun _ _ => (hValue 0).bind fun _ _ => .ok _
  | log =>
    refine (hOptional 1).bind fun base _ => ?_
    cases base <;> exact (hValue 0).bind fun _ _ => .ok _
  | rnd => exact .ok _
  | _ => exact (hValue 0).map _

theorem lacksOnly_likeCall (caseSensitive : Bool) {a b : Argument} (ha : LacksOnly P a.operand)
    (hb : LacksOnly P b.operand) : LacksOnly P (likeCall caseSensitive a b) :=
  (ha.map _).bind fun _ _ => (Argument.lacksOnly_pattern hb).bind fun _ _ => .ok _

theorem lacksOnly_like (caseSensitive : Bool) (tag : String)
    (h : ∀ a ∈ args, LacksOnly P a.operand) : LacksOnly P (like caseSensitive tag args) := by
  unfold like
  split
  · exact lacksOnly_likeCall caseSensitive (h _ (by simp)) (h _ (by simp))
  · exact .error (by simp)

end Call

theorem Function.lacksOnly_compile (caseSensitive : Bool) {f : Function} {P : Aggregate → Prop}
    {args : List Argument}
    (h : f.standard? ≠ some .rnd → ∀ a ∈ args, LacksOnly P a.operand) :
    LacksOnly P (f.compile caseSensitive args) := by
  have hStandard : ∀ g : StandardFunction, f.standard? = some g →
      LacksOnly P (Call.standard caseSensitive g args) := by
    intro g hg
    unfold Call.standard
    split
    · by_cases hRandom : g = .rnd
      · subst hRandom
        exact .ok _
      · exact Call.lacksOnly_template caseSensitive g (h (by simpa [hg] using hRandom))
    · exact .error (by simp)
  cases f with
  | standard g => exact hStandard g rfl
  | custom tag =>
    have hLike : ∀ {name}, Text.lower tag = name → StandardFunction.ofName? name = none →
        LacksOnly P (Call.like caseSensitive tag args) := by
      intro name hName hNone
      refine Call.lacksOnly_like caseSensitive tag (h ?_)
      rw [standard?, hName, hNone]
      simp
    change LacksOnly P (Call.custom caseSensitive tag args)
    unfold Call.custom
    dsimp only
    split
    · rename_i hName
      exact hLike hName StandardFunction.ofName?_like
    · split
      · rename_i hName
        exact (hLike hName StandardFunction.ofName?_notLike).map _
      · split
        · rename_i g hg
          exact hStandard g hg
        · exact .error (by simp)

theorem Expression.hasSubquery_of_child {e c : Expression} {a : Aggregate}
    (hc : c ∈ e.localChildren) (h : c.HasSubquery a) : e.HasSubquery a :=
  hasSubquery_iff.mpr (.inr ⟨c, hc, h⟩)

theorem Expression.hasSubquery_of_input {e c : Expression} {a : Aggregate} (hc : c ∈ e.inputs)
    (h : c.HasSubquery a) : e.HasSubquery a := by
  cases e with
  | unary op e =>
    by_cases hNot : op = .not
    · subst hNot
      cases hComplement : e.complement? with
      | none =>
        rw [inputs_not hComplement] at hc
        exact hasSubquery_of_child hc h
      | some d =>
        rw [inputs_not_of_complement? hComplement] at hc
        obtain rfl := List.mem_singleton.mp hc
        refine hasSubquery_of_child (.head _) ?_
        refine complement_of_children (P := fun d => d.HasSubquery a → e.HasSubquery a) ?_ ?_
          hComplement ?_ h
        · intro op l r hl hr hBinary
          obtain hSelf | ⟨d, hd, hPart⟩ := hasSubquery_iff.mp hBinary
          · cases hSelf
          · obtain rfl | rfl := List.mem_pair.mp hd
            · exact hl hPart
            · exact hr hPart
        · intro op es hes hGroup
          obtain hSelf | ⟨d, hd, hPart⟩ := hasSubquery_iff.mp hGroup
          · cases hSelf
          · exact hes d hd hPart
        · intro d hd hPart
          cases e with
          | aggregate b => cases hComplement
          | _ => exact hasSubquery_of_child hd hPart
    · rw [inputs_unary hNot] at hc
      exact hasSubquery_of_child hc h
  | call f es =>
    rw [inputs] at hc
    split at hc
    · cases hc
    · exact hasSubquery_of_child hc h
  | aggregate b => cases hc
  | _ => exact hasSubquery_of_child hc h

theorem Constant.lacksOnly_value {P : Aggregate → Prop} (c : Constant) : LacksOnly P c.value := by
  unfold value
  split
  case h_6 =>
    split
    · exact .ok _
    · exact .error (by simp)
  all_goals exact .ok _

/-- The compiled forms of an expression fail for want of subqueries with a property only. -/
structure Site.LacksOnly (site : Site) (P : Aggregate → Prop) (e : Expression) : Prop where
  operand : RelPipe.LacksOnly P (site.compile e)
  clause : RelPipe.LacksOnly P (site.clauseOf e)

namespace Site

variable {site : Site} {P : Aggregate → Prop} {e : Expression}

theorem LacksOnly.of_filter?_none (hFilter : site.filter? e = .ok none)
    (h : RelPipe.LacksOnly P (site.compile e)) : site.LacksOnly P e := by
  refine ⟨h, ?_⟩
  rw [clauseOf_of_filter?_none hFilter]
  exact (h.map _).map _

theorem lacksOnly_aggregate {a : Aggregate} (hNone : site.grouping.operand? (.aggregate a) = none)
    (h : a.statement ≠ none → site.scope.subqueryField? a.signature = none → P a) :
    site.LacksOnly P (.aggregate a) := by
  refine .of_filter?_none ?_ ?_
  · rw [filter?.eq_def, hNone]
  · rw [compile, hNone]
    dsimp only
    unfold Site.aggregate
    cases hStatement : a.statement with
    | none => exact .error (by simp)
    | some s =>
      cases hField : site.scope.subqueryField? a.signature with
      | none =>
        intro b hb
        cases hb
        exact h (by simp [hStatement]) hField
      | some field => exact .ok _

theorem LacksOnly.complement {c : Expression} (hc : e.complement? = some c)
    (hNone : site.grouping.operand? (.unary .not e) = none) (h : site.LacksOnly P c) :
    site.LacksOnly P (.unary .not e) := by
  refine ⟨?_, ?_⟩
  · rw [compile_not_of_complement? hc hNone]
    exact h.operand
  · rw [clauseOf_not_of_complement? hc hNone]
    exact h.clause

theorem LacksOnly.not (hc : e.complement? = none)
    (hNone : site.grouping.operand? (.unary .not e) = none) (h : site.LacksOnly P e) :
    site.LacksOnly P (.unary .not e) := by
  have hCompile : RelPipe.LacksOnly P (site.compile (.unary .not e)) := by
    rw [compile_not hc hNone]
    exact h.operand.map _
  refine ⟨hCompile, ?_⟩
  rw [clauseOf, filter?_not hc hNone]
  refine .bind (h.clause.of_bind.bind fun f? _ => .map ?_ _) fun g? _ => ?_
  · cases f? with
    | none => exact (h.operand.map _).map _
    | some f => exact .ok _
  · cases g? with
    | none => exact (hCompile.map _).map _
    | some g => exact .ok _

theorem LacksOnly.unary {op : UnaryOp} (hop : op ≠ .not)
    (hNone : site.grouping.operand? (.unary op e) = none) (h : site.LacksOnly P e) :
    site.LacksOnly P (.unary op e) := by
  refine .of_filter?_none (filter?_unary hop hNone) ?_
  rw [compile_unary hop hNone]
  exact h.operand.map _

theorem LacksOnly.binary {op : BinaryOp} {l r : Expression}
    (hNone : site.grouping.operand? (.binary op l r) = none) (hl : site.LacksOnly P l)
    (hr : site.LacksOnly P r) : site.LacksOnly P (.binary op l r) := by
  have hCompile : RelPipe.LacksOnly P (site.compile (.binary op l r)) := by
    rw [compile_binary, resolve, hNone]
    by_cases hLike : op = .like
    · subst hLike
      exact (Call.lacksOnly_likeCall site.caseSensitive hl.operand hr.operand).map _
    · dsimp only
      rw [binary_of_ne_like hLike]
      exact hl.operand.bind fun _ _ => hr.operand.map _
  cases hop : op.isComparison with
  | true =>
    refine ⟨hCompile, ?_⟩
    rw [clauseOf_comparison hop hNone]
    exact hl.operand.bind fun _ _ => hr.operand.map _
  | false =>
    refine .of_filter?_none ?_ hCompile
    rw [filter?, hNone]
    simp [hop]

theorem LacksOnly.between {t l h : Expression}
    (hNone : site.grouping.operand? (.between t l h) = none) (ht : site.LacksOnly P t)
    (hl : site.LacksOnly P l) (hh : site.LacksOnly P h) : site.LacksOnly P (.between t l h) := by
  refine ⟨?_, ?_⟩
  · rw [compile_between hNone]
    exact ht.operand.bind fun _ _ => hl.operand.bind fun _ _ => hh.operand.map _
  · rw [clauseOf_between hNone]
    exact ht.operand.bind fun _ _ => hl.operand.bind fun _ _ => hh.operand.map _

theorem lacksOnly_operands {es : List Expression} (h : ∀ e ∈ es, site.LacksOnly P e) :
    RelPipe.LacksOnly P (site.operands es) := by
  induction es with
  | nil => exact .ok []
  | cons e es ih =>
    obtain ⟨hFirst, hRest⟩ := List.forall_mem_cons.mp h
    exact hFirst.operand.bind fun _ _ => (ih hRest).bind fun _ _ => .ok _

theorem LacksOnly.member {l : Expression} {cs : List Expression}
    (hNone : site.grouping.operand? (.member l cs) = none) (hl : site.LacksOnly P l)
    (hcs : ∀ c ∈ cs, site.LacksOnly P c) : site.LacksOnly P (.member l cs) := by
  refine ⟨?_, ?_⟩
  · rw [compile_member hNone]
    exact hl.operand.bind fun _ _ => (lacksOnly_operands hcs).map _
  · rw [clauseOf_member hNone]
    exact hl.operand.bind fun _ _ => (lacksOnly_operands hcs).map _

theorem lacksOnly_filters {es : List Expression} (h : ∀ e ∈ es, site.LacksOnly P e) :
    RelPipe.LacksOnly P (site.filters es) := by
  induction es with
  | nil => exact .ok []
  | cons e es ih =>
    obtain ⟨hFirst, hRest⟩ := List.forall_mem_cons.mp h
    rw [filters_cons]
    exact hFirst.clause.bind fun _ _ => (ih hRest).map _

theorem LacksOnly.group {op : GroupOp} {es : List Expression}
    (hNone : site.grouping.operand? (.group op es) = none) (h : ∀ e ∈ es, site.LacksOnly P e) :
    site.LacksOnly P (.group op es) := by
  have hCompile : RelPipe.LacksOnly P (site.compile (.group op es)) := by
    rw [compile_group hNone, values_compileEach]
    exact ((lacksOnly_operands h).map _).map _
  refine ⟨hCompile, ?_⟩
  rw [clauseOf, filter?_group hNone]
  refine ((lacksOnly_filters h).map _).bind fun f? _ => ?_
  cases f? with
  | none => exact (hCompile.map _).map _
  | some f => exact .ok _

theorem LacksOnly.call {f : Function} {es : List Expression}
    (hNone : site.grouping.operand? (.call f es) = none)
    (h : f.standard? ≠ some .rnd → ∀ e ∈ es, site.LacksOnly P e) :
    site.LacksOnly P (.call f es) := by
  refine .of_filter?_none ?_ ?_
  · rw [filter?.eq_def, hNone]
  · rw [compile, hNone]
    refine (Function.lacksOnly_compile _ fun hRandom a ha => ?_).map _
    obtain ⟨e, he, rfl⟩ := mem_compileEach.mp ha
    exact (h hRandom e he).operand

/-- Compiling an expression fails for want of none but its own subqueries, and of those only for
one that is not planned. -/
theorem lacksOnly (e : Expression) (h : ∀ a, e.HasSubquery a → a.statement ≠ none →
    site.scope.subqueryField? a.signature = none → P a) : site.LacksOnly P e := by
  induction e using Expression.input_induction with
  | step e ih =>
    have ih : ∀ c ∈ e.inputs, site.LacksOnly P c :=
      fun c hc => ih c hc fun a ha => h a (Expression.hasSubquery_of_input hc ha)
    cases hNone : site.grouping.operand? e with
    | some o =>
      refine .of_filter?_none ?_ ?_
      · rw [filter?.eq_def, hNone]
      · rw [compile_of_operand? hNone]
        exact .ok o
    | none =>
      cases e with
      | column _ | property _ =>
        refine .of_filter?_none ?_ ?_
        · rw [filter?.eq_def, hNone]
        · rw [compile, hNone]
          exact .ok _
      | constant c =>
        refine .of_filter?_none ?_ ?_
        · rw [filter?.eq_def, hNone]
        · rw [compile, hNone]
          exact (Constant.lacksOnly_value c).map _
      | aggregate a => exact lacksOnly_aggregate hNone (h a (.self _))
      | unary op e =>
        by_cases hNot : op = .not
        · subst hNot
          cases hc : e.complement? with
          | none =>
            rw [Expression.inputs_not hc] at ih
            exact (ih e (.head _)).not hc hNone
          | some c =>
            rw [Expression.inputs_not_of_complement? hc] at ih
            exact (ih c (.head _)).complement hc hNone
        · rw [Expression.inputs_unary hNot] at ih
          exact (ih e (.head _)).unary hNot hNone
      | binary op l r => exact .binary hNone (ih l (.head _)) (ih r (.tail _ (.head _)))
      | between t l u =>
        exact .between hNone (ih t (.head _)) (ih l (.tail _ (.head _)))
          (ih u (.tail _ (.tail _ (.head _))))
      | member l cs => exact .member hNone (ih l (.head _)) fun c hc => ih c (.tail _ hc)
      | group op es => exact .group hNone ih
      | call f es =>
        refine .call hNone fun hRandom e he => ih e ?_
        rw [Expression.inputs, if_neg hRandom]
        exact he

end Site

end RelPipe
