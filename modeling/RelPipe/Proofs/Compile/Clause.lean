import RelPipe.Compile.Predicate
import RelPipe.Proofs.Outcome
import RelPipe.Proofs.Statement.Part

/-!
Compilation of what has not been grouped, one equation for each form of predicate. A negation is
compiled as its complement where there is one, and operand by operand otherwise.
-/

namespace RelPipe.Site

set_option autoImplicit false

/-- A predicate as a clause: its filter if it has one, and its computed value otherwise. -/
def clauseOf (site : Site) (e : Expression) : Except CompileError Filter :=
  (site.filter? e).bind (site.clause e)

theorem filterDocument_eq_clauseOf (site : Site) (e : Expression) :
    site.filterDocument e = (site.clauseOf e).map Filter.toDocument := by
  unfold filterDocument clauseOf
  cases site.filter? e with
  | error err => rfl
  | ok f? => cases h : site.clause e f? <;> simp [bind, Except.bind, Except.map, h]

theorem filters_cons (site : Site) (e : Expression) (es : List Expression) :
    site.filters (e :: es) =
      (site.clauseOf e).bind fun f => (site.filters es).map (f :: ·) := by
  rw [filters, clauseOf]
  cases site.filter? e with
  | error err => rfl
  | ok f? =>
    cases h : site.clause e f? with
    | error err => simp [bind, Except.bind, h]
    | ok f => cases h' : site.filters es <;> simp [bind, Except.bind, Except.map, h]

theorem length_compileEach (site : Site) (es : List Expression) :
    (site.compileEach es).length = es.length := by
  induction es with
  | nil => rfl
  | cons e es ih => rw [compileEach, List.length_cons, ih, List.length_cons]

theorem values_compileEach_cons (site : Site) (e : Expression) (es : List Expression) :
    Call.values (site.compileEach (e :: es)) =
      (site.value e).bind fun v => (Call.values (site.compileEach es)).map (v :: ·) := by
  rw [compileEach, Call.values]
  change ((site.value e).bind fun v => (Call.values (site.compileEach es)).bind _) = _
  cases site.value e with
  | error err => rfl
  | ok v => cases Call.values (site.compileEach es) <;> rfl

theorem values_compileEach (site : Site) (es : List Expression) :
    Call.values (site.compileEach es) = (site.operands es).map (List.map Operand.render) := by
  induction es with
  | nil => rfl
  | cons e es ih =>
    rw [values_compileEach_cons, ih, operands, value]
    cases site.compile e with
    | error err => rfl
    | ok o => cases site.operands es <;> rfl

theorem clauseOf_of_filter?_none {site : Site} {e : Expression} (h : site.filter? e = .ok none) :
    site.clauseOf e = (site.value e).map Filter.computed := by
  rw [clauseOf, h]
  rfl

theorem clauseOf_of_filter?_some {site : Site} {e : Expression} {f : Filter}
    (h : site.filter? e = .ok (some f)) : site.clauseOf e = .ok f := by
  rw [clauseOf, h]
  rfl

theorem binary_of_ne_like {site : Site} {op : BinaryOp} (hop : op ≠ .like)
    (left right : Argument) :
    site.binary op left right =
      left.operand.bind fun l => right.operand.map fun r => op.apply l r := by
  unfold binary
  split
  · exact absurd rfl hop
  · cases left.operand with
    | error err => rfl
    | ok l => cases right.operand <;> rfl

section

variable {site : Site}

theorem compile_comparison {op : BinaryOp} (hop : op.isComparison = true) {l r : Expression}
    (hNone : site.grouping.operand? (.binary op l r) = none) :
    site.compile (.binary op l r) =
      (site.compile l).bind fun left => (site.compile r).map fun right =>
        .computed (comparison op left right) := by
  have hLike : op ≠ .like := by
    rintro rfl
    cases hop
  have hApply : op.apply = fun left right => .computed (comparison op left right) := by
    funext left right
    exact if_pos hop
  rw [compile_binary, resolve, hNone, binary_of_ne_like hLike, hApply]

theorem clauseOf_comparison {op : BinaryOp} (hop : op.isComparison = true) {l r : Expression}
    (hNone : site.grouping.operand? (.binary op l r) = none) :
    site.clauseOf (.binary op l r) =
      (site.compile l).bind fun left => (site.compile r).map fun right =>
        .ofComparison op left right := by
  rw [clauseOf, filter?_comparison site hop, comparisonFilter?, hNone]
  cases site.compile l with
  | error err => rfl
  | ok left => cases site.compile r <;> rfl

theorem compile_between {t l h : Expression}
    (hNone : site.grouping.operand? (.between t l h) = none) :
    site.compile (.between t l h) =
      (site.compile t).bind fun test => (site.compile l).bind fun low =>
        (site.compile h).map fun high => .computed (rangeComparison test low high) := by
  rw [compile, hNone]
  cases site.compile t with
  | error err => rfl
  | ok test =>
    cases site.compile l with
    | error err => rfl
    | ok low => cases site.compile h <;> rfl

theorem clauseOf_between {t l h : Expression}
    (hNone : site.grouping.operand? (.between t l h) = none) :
    site.clauseOf (.between t l h) =
      (site.compile t).bind fun test => (site.compile l).bind fun low =>
        (site.compile h).map fun high => .ofRange test low high := by
  rw [clauseOf, filter?, hNone]
  cases site.compile t with
  | error err => rfl
  | ok test =>
    cases site.compile l with
    | error err => rfl
    | ok low => cases site.compile h <;> rfl

theorem compile_member {l : Expression} {cs : List Expression}
    (hNone : site.grouping.operand? (.member l cs) = none) :
    site.compile (.member l cs) =
      (site.compile l).bind fun left => (site.operands cs).map fun candidates =>
        .computed (.apply "$in" [left.render, .array (candidates.map Operand.render)]) := by
  rw [compile, hNone, values_compileEach]
  cases site.compile l with
  | error err => rfl
  | ok left => cases site.operands cs <;> rfl

theorem clauseOf_member {l : Expression} {cs : List Expression}
    (hNone : site.grouping.operand? (.member l cs) = none) :
    site.clauseOf (.member l cs) =
      (site.compile l).bind fun left => (site.operands cs).map fun candidates =>
        .ofMembership left candidates := by
  rw [clauseOf, filter?, hNone]
  cases site.compile l with
  | error err => rfl
  | ok left => cases site.operands cs <;> rfl

theorem compile_group {op : GroupOp} {es : List Expression}
    (hNone : site.grouping.operand? (.group op es) = none) :
    site.compile (.group op es) =
      (Call.values (site.compileEach es)).map fun vs => .computed (.apply op.operator vs) := by
  rw [compile, hNone]
  cases Call.values (site.compileEach es) <;> rfl

theorem filter?_group {op : GroupOp} {es : List Expression}
    (hNone : site.grouping.operand? (.group op es) = none) :
    site.filter? (.group op es) = (site.filters es).map (Filter.ofGroup? op) := by
  rw [filter?, hNone]
  cases site.filters es <;> rfl

theorem compile_unary {op : UnaryOp} (hop : op ≠ .not) {e : Expression}
    (hNone : site.grouping.operand? (.unary op e) = none) :
    site.compile (.unary op e) = (site.compile e).map op.apply := by
  rw [compile.eq_def, hNone]
  cases op with
  | not => exact absurd rfl hop
  | _ => rfl

theorem filter?_unary {op : UnaryOp} (hop : op ≠ .not) {e : Expression}
    (hNone : site.grouping.operand? (.unary op e) = none) :
    site.filter? (.unary op e) = .ok none := by
  rw [filter?.eq_def, hNone]
  cases op with
  | not => exact absurd rfl hop
  | _ => rfl

theorem compile_not {e : Expression} (hc : e.complement? = none)
    (hNone : site.grouping.operand? (.unary .not e) = none) :
    site.compile (.unary .not e) = (site.compile e).map UnaryOp.not.apply := by
  rw [compile.eq_def, hNone]
  cases e with
  | unary op e =>
    cases op with
    | not => cases hc
    | _ => rfl
  | binary op l r =>
    have hNone : op.complement? = none := by simpa [Expression.complement?] using hc
    simp only [hNone]
  | between t l h => cases hc
  | _ => rfl

theorem filter?_not {e : Expression} (hc : e.complement? = none)
    (hNone : site.grouping.operand? (.unary .not e) = none) :
    site.filter? (.unary .not e) =
      (site.filter? e).bind fun f? => (site.negated e f?).map some := by
  rw [filter?.eq_def, hNone]
  cases e with
  | unary op e =>
    cases op with
    | not => cases hc
    | _ => rfl
  | binary op l r =>
    have hNone : op.complement? = none := by simpa [Expression.complement?] using hc
    simp only [hNone]
    rfl
  | between t l h => cases hc
  | _ => rfl

theorem clauseOf_not_of_complement? {e c : Expression} (hc : e.complement? = some c)
    (hNone : site.grouping.operand? (.unary .not e) = none) :
    site.clauseOf (.unary .not e) = site.clauseOf c := by
  rw [clauseOf, clauseOf, filter?_not_of_complement? hc hNone]
  cases site.filter? c with
  | error err => rfl
  | ok f? =>
    cases f? with
    | some f => rfl
    | none =>
      change (site.value _).map _ = (site.value _).map _
      rw [value, value, compile_not_of_complement? hc hNone]

end

theorem compile_constant (site : Site) (c : Constant) :
    site.compile (.constant c) = c.value.map .constant := by
  have hGrouped : site.grouping.operand? (.constant c) = none := by
    unfold Grouping.operand?
    split <;> rfl
  rw [compile, hGrouped]

theorem map_computed_ne_constant {α : Type} {x : Except CompileError α} {f : α → Value}
    {v : Value} : x.map (fun a => Operand.computed (f a)) ≠ .ok (.constant v) := by
  intro h
  obtain ⟨a, _, ho⟩ := exists_of_map_eq_ok h
  cases ho

theorem operand?_ne_constant {g : Grouping} {e : Expression} {v : Value} :
    g.operand? e ≠ some (.constant v) := by
  intro h
  unfold Grouping.operand? at h
  split at h
  · cases h
  · split at h
    · cases h
    · split at h
      · cases h
      · obtain ⟨a, _, ha⟩ := Option.map_eq_some_iff.mp h
        dsimp only at ha
        split at ha <;> cases ha

theorem binary_ne_constant {site : Site} {op : BinaryOp} {left right : Argument} {v : Value} :
    site.binary op left right ≠ .ok (.constant v) := by
  intro h
  by_cases hop : op = .like
  · subst hop
    exact absurd h map_computed_ne_constant
  · rw [binary_of_ne_like hop] at h
    obtain ⟨l, _, h⟩ := exists_of_bind_eq_ok h
    obtain ⟨r, _, ho⟩ := exists_of_map_eq_ok h
    unfold BinaryOp.apply at ho
    split at ho <;> cases ho

theorem aggregate_ne_constant {site : Site} {a : Aggregate} {v : Value} :
    site.aggregate a ≠ .ok (.constant v) := by
  intro h
  unfold aggregate at h
  split at h
  · cases h
  · split at h <;> cases h

theorem exists_constant_of_compile {site : Site} (e : Expression) {v : Value}
    (h : site.compile e = .ok (.constant v)) :
    ∃ c : Constant, (Expression.constant c).Part e ∧ c.value = .ok v := by
  induction e using Expression.part_induction with
  | step e ih =>
    cases hNone : site.grouping.operand? e with
    | some o =>
      rw [compile.eq_def, hNone] at h
      cases h
      exact absurd hNone operand?_ne_constant
    | none =>
      cases e with
      | unary op e =>
        have hMember : e ∈ (Expression.unary op e).children := .head _
        cases op with
        | not =>
          cases hc : e.complement? with
          | none =>
            rw [compile_not hc hNone] at h
            exact absurd h map_computed_ne_constant
          | some c =>
            rw [compile_not_of_complement? hc hNone] at h
            cases e with
            | unary op e =>
              cases op <;> cases hc
              obtain ⟨d, hPart, hd⟩ := ih _ hMember c (.child (.head _) (.self c)) h
              exact ⟨d, .child hMember (.child (.head _) hPart), hd⟩
            | binary op l r =>
              obtain ⟨op', _, rfl⟩ := Option.map_eq_some_iff.mp hc
              rw [compile_binary, resolve] at h
              split at h
              · rename_i hGrouped
                cases h
                exact absurd hGrouped operand?_ne_constant
              · exact absurd h binary_ne_constant
            | between t l u =>
              cases hc
              rw [compile] at h
              split at h
              · rename_i hGrouped
                cases h
                exact absurd hGrouped operand?_ne_constant
              · obtain ⟨_, _, ho⟩ := exists_of_bind_eq_ok h
                cases ho
            | _ => cases hc
        | plus =>
          rw [compile_unary (by decide) hNone] at h
          obtain ⟨o, ho, hPlus⟩ := exists_of_map_eq_ok h
          obtain rfl : o = .constant v := hPlus
          obtain ⟨d, hPart, hd⟩ := ih e hMember e (.self e) ho
          exact ⟨d, .child hMember hPart, hd⟩
        | _ =>
          rw [compile_unary (by decide) hNone] at h
          exact absurd h map_computed_ne_constant
      | constant c =>
        rw [compile, hNone] at h
        obtain ⟨w, hw, ho⟩ := exists_of_map_eq_ok h
        cases ho
        exact ⟨c, .self _, hw⟩
      | column ref =>
        rw [compile, hNone] at h
        cases h
      | property name =>
        rw [compile, hNone] at h
        cases h
      | binary op l r =>
        rw [compile_binary, resolve, hNone] at h
        exact absurd h binary_ne_constant
      | between t l u =>
        rw [compile_between hNone] at h
        obtain ⟨test, _, h⟩ := exists_of_bind_eq_ok h
        obtain ⟨low, _, h⟩ := exists_of_bind_eq_ok h
        exact absurd h map_computed_ne_constant
      | member l cs =>
        rw [compile_member hNone] at h
        obtain ⟨left, _, h⟩ := exists_of_bind_eq_ok h
        exact absurd h map_computed_ne_constant
      | group op es =>
        rw [compile_group hNone] at h
        exact absurd h map_computed_ne_constant
      | call f es =>
        rw [compile, hNone] at h
        exact absurd h map_computed_ne_constant
      | aggregate a =>
        rw [compile, hNone] at h
        exact absurd h aggregate_ne_constant

end RelPipe.Site
