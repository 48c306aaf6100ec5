import RelPipe.Compile.Call
import RelPipe.Compile.Grouping
import RelPipe.Compile.Scope

/-!
Compiled expressions. An expression is compiled at a site, which says where names lead, what has
been grouped and whether letter case is significant in patterns. Negations are pushed inwards where
the negated predicate has a form of its own: there a null operand still matches nothing.
-/

namespace RelPipe

set_option autoImplicit false

structure Site where
  scope : Scope
  grouping : Grouping
  caseSensitive : Bool

def Constant.value : Constant → Except CompileError Value
  | .null => .ok .null
  | .boolean b => .ok (.boolean b)
  | .int32 n => .ok (.int32 n)
  | .int64 n => .ok (.int64 n)
  | .double x => .ok (.double x)
  | .decimal text =>
    match Number.Decimal128.ofText? text.toList with
    | some d => .ok (.decimal d)
    | none => .error (.invalidDecimal text)
  | .string s => .ok (.string s)
  | .dateTime millis => .ok (.date millis)
  | .guid id => .ok (.binary 4 id.bytes)
  | .bytes content => .ok (.binary 0 content)

def UnaryOp.apply (op : UnaryOp) (operand : Operand) : Operand :=
  match op with
  | .not => .computed (.apply "$not" [operand.render])
  | .minus => .computed (.apply "$multiply" [.int32 (-1), operand.render])
  | .plus => operand
  | .bitwiseNot => .computed (.single "$bitNot" operand.render)
  | .isNull => .computed operand.render.absent

def BinaryOp.apply (op : BinaryOp) (left right : Operand) : Operand :=
  if op.isComparison then .computed (comparison op left right)
  else .computed (.apply op.operator [left.render, right.render])

/-- The predicate that negates another, where there is one that a null operand does not satisfy
either. -/
def Expression.complement? : Expression → Option Expression
  | .unary .not e => some e
  | .binary op l r => op.complement?.map fun op => .binary op l r
  | .between t l h => some (.group .or [.binary .less t l, .binary .greater t h])
  | _ => none

namespace Site

/-- What a subquery or an aggregate outside of any grouping compiles to. -/
def aggregate (site : Site) (a : Aggregate) : Except CompileError Operand :=
  match a.statement with
  | none => .error (.aggregateOutsideGrouping a)
  | some _ =>
    match site.scope.subqueryField? a.signature with
    | some field => .ok (.field ("$" ++ field))
    | none => .error (.unplannedSubquery a)

/-- The outcome for an expression: what it reads after grouping, or else `compiled`. -/
@[macro_inline] def resolve (site : Site) (e : Expression)
    (compiled : Except CompileError Operand) : Except CompileError Operand :=
  match site.grouping.operand? e with
  | some operand => .ok operand
  | none => compiled

def binary (site : Site) (op : BinaryOp) (left right : Argument) : Except CompileError Operand :=
  match op with
  | .like => (likeCall site.caseSensitive left right).map .computed
  | op => do
    let l ← left.operand
    let r ← right.operand
    .ok (op.apply l r)

mutual

def compile (site : Site) (e : Expression) : Except CompileError Operand :=
  match site.grouping.operand? e with
  | some operand => .ok operand
  | none =>
    match e with
    | .column ref => .ok (.field (site.scope.columnPath ref))
    | .property name => .ok (.field (Scope.propertyPath name))
    | .constant c => c.value.map .constant
    | .unary .not (.unary .not e) => compile site e
    | .unary .not (.binary op l r) =>
      match op.complement? with
      | some op =>
        site.resolve (.binary op l r)
          (site.binary op ⟨l, compile site l⟩ ⟨r, compile site r⟩)
      | none => (compile site (.binary op l r)).map UnaryOp.not.apply
    | .unary .not (.between t l h) =>
      site.resolve (.group .or [.binary .less t l, .binary .greater t h]) do
        let test : Argument := ⟨t, compile site t⟩
        let below ← site.resolve (.binary .less t l)
          (site.binary .less test ⟨l, compile site l⟩)
        let above ← site.resolve (.binary .greater t h)
          (site.binary .greater test ⟨h, compile site h⟩)
        .ok (.computed (.apply "$or" [below.render, above.render]))
    | .unary op e => (compile site e).map op.apply
    | .binary op l r => site.binary op ⟨l, compile site l⟩ ⟨r, compile site r⟩
    | .between t l h => do
      let test ← compile site t
      let low ← compile site l
      let high ← compile site h
      .ok (.computed (rangeComparison test low high))
    | .member l cs => do
      let left ← compile site l
      let candidates ← Call.values (compileEach site cs)
      .ok (.computed (.apply "$in" [left.render, .array candidates]))
    | .group op es => do
      let clauses ← Call.values (compileEach site es)
      .ok (.computed (.apply op.operator clauses))
    | .call f es => (f.compile site.caseSensitive (compileEach site es)).map .computed
    | .aggregate a => site.aggregate a
termination_by structural e

def compileEach (site : Site) : List Expression → List Argument
  | [] => []
  | e :: rest => ⟨e, compile site e⟩ :: compileEach site rest
termination_by structural es => es

end

def value (site : Site) (e : Expression) : Except CompileError Value :=
  (site.compile e).map Operand.render

theorem compile_binary (site : Site) (op : BinaryOp) (l r : Expression) :
    site.compile (.binary op l r) =
      site.resolve (.binary op l r)
        (site.binary op ⟨l, site.compile l⟩ ⟨r, site.compile r⟩) := by
  rw [compile]
  rfl

/-- A negation is compiled as the predicate that negates its operand, where there is one. -/
theorem compile_not_of_complement? {site : Site} {e c : Expression} (hc : e.complement? = some c)
    (hg : site.grouping.operand? (.unary .not e) = none) :
    site.compile (.unary .not e) = site.compile c := by
  cases e with
  | unary op e =>
    cases op <;> simp [Expression.complement?] at hc
    subst hc
    rw [compile, hg]
  | binary op l r =>
    simp only [Expression.complement?, Option.map_eq_some_iff] at hc
    obtain ⟨op', hop, rfl⟩ := hc
    rw [compile_binary, compile, hg]
    simp only [hop]
  | between t l h =>
    simp only [Expression.complement?, Option.some.injEq] at hc
    subst hc
    rw [compile, hg, compile]
    simp only [compileEach, Call.values, Argument.value, compile_binary]
    generalize site.resolve (.binary .less t l) _ = below
    generalize site.resolve (.binary .greater t h) _ = above
    simp only [resolve]
    cases site.grouping.operand? (.group .or [.binary .less t l, .binary .greater t h]) with
    | some o => rfl
    | none => cases below <;> cases above <;> rfl
  | _ => simp [Expression.complement?] at hc

end Site

end RelPipe
