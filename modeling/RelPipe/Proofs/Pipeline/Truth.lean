import Mathlib.Data.List.Forall2
import RelPipe.Compile.Operand
import RelPipe.Pipeline.Expression
import RelPipe.Proofs.Document.Order

/-!
The truth of expressions on a document, operator by operator. Conjunctions and disjunctions end at
the first operand that decides them, so two of them with operands that agree may still fail at
different places; where both come to an end, their outcomes agree.
-/

namespace RelPipe

set_option autoImplicit false

def BinaryOp.holds : BinaryOp → Ordering → Bool
  | equal, o => o == .eq
  | notEqual, o => o != .eq
  | less, o => o == .lt
  | lessOrEqual, o => o != .gt
  | greater, o => o == .gt
  | greaterOrEqual, o => o != .lt
  | _, _ => false

theorem BinaryOp.holds_mirrored (op : BinaryOp) (o : Ordering) :
    op.mirrored.holds o = op.holds o.swap := by
  cases op <;> cases o <;> rfl

theorem BinaryOp.isInequality_mirrored (op : BinaryOp) :
    op.mirrored.isInequality = op.isInequality := by
  cases op <;> rfl

theorem BinaryOp.isComparison_mirrored (op : BinaryOp) :
    op.mirrored.isComparison = op.isComparison := by
  cases op <;> rfl

theorem BinaryOp.isComparison_of_isInequality {op : BinaryOp} (h : op.isInequality = true) :
    op.isComparison = true := by
  cases op <;> first | rfl | cases h

theorem BinaryOp.isInequality_of_complement? {op c : BinaryOp} (h : op.complement? = some c) :
    op.isInequality = true ∧ c.isInequality = true := by
  cases op <;> cases h <;> exact ⟨rfl, rfl⟩

def GroupOp.holds : GroupOp → List Bool → Bool
  | and, bs => bs.all id
  | or, bs => bs.any id

namespace Pipeline

/-- Two outcomes agree if they are equal whenever both are reached. -/
def Agree {α : Type} (x y : Result α) : Prop := ∀ a b, x = .ok a → y = .ok b → a = b

theorem Agree.refl {α : Type} (x : Result α) : Agree x x := by
  intro a b ha hb
  rw [ha] at hb
  exact Except.ok.inj hb

theorem Agree.of_eq {α : Type} {x y : Result α} (h : x = y) : Agree x y := h ▸ .refl x

theorem Agree.map {α β : Type} {x y : Result α} (h : Agree x y) (f : α → β) :
    Agree (x.map f) (y.map f) := by
  intro a b ha hb
  cases x with
  | error e => cases ha
  | ok a' =>
    cases y with
    | error e => cases hb
    | ok b' =>
      cases ha
      cases hb
      rw [h a' b' rfl rfl]

theorem Agree.bind {α β : Type} {x y : Result α} {f g : α → Result β} (h : Agree x y)
    (hfg : ∀ a, Agree (f a) (g a)) : Agree (x.bind f) (y.bind g) := by
  cases x with
  | error e => intro a b ha; cases ha
  | ok a =>
    cases y with
    | error e => intro a b _ hb; cases hb
    | ok b =>
      obtain rfl := h a b rfl rfl
      exact hfg a

def truth (env : Environment) (v : Value) : Result Bool := (evaluate env v).map Value.isTruthy

section

variable {env : Environment}

theorem truth_of_evaluate {v x : Value} (h : evaluate env v = .ok x) :
    truth env v = .ok x.isTruthy := by
  rw [truth, h]
  rfl

theorem evaluate_onValues {name : String} {op : ValueOperator}
    (hName : Operator.ofName? name = some (.onValues op)) (hDollar : Text.dollar name = true)
    (es : List Value) :
    evaluate env (.apply name es) =
      (evaluateEach env es).bind fun vs => blame name (op.apply vs) := by
  rw [Value.apply, Value.single, evaluate, if_pos hDollar, hName]
  rfl

theorem evaluateEach_pair {a b x y : Value} (ha : evaluate env a = .ok x)
    (hb : evaluate env b = .ok y) : evaluateEach env [a, b] = .ok [x, y] := by
  simp only [evaluateEach, ha, hb]
  rfl

theorem ofName?_operator {op : BinaryOp} (h : op.isComparison = true) :
    ∃ c : Comparison, Operator.ofName? op.operator = some (.onValues (.test c)) ∧
      Text.dollar op.operator = true ∧ ∀ o, c.holds o = op.holds o := by
  cases op with
  | equal => exact ⟨.eq, rfl, rfl, fun _ => rfl⟩
  | notEqual => exact ⟨.ne, rfl, rfl, fun _ => rfl⟩
  | less => exact ⟨.lt, rfl, rfl, fun _ => rfl⟩
  | lessOrEqual => exact ⟨.lte, rfl, rfl, fun _ => rfl⟩
  | greater => exact ⟨.gt, rfl, rfl, fun _ => rfl⟩
  | greaterOrEqual => exact ⟨.gte, rfl, rfl, fun _ => rfl⟩
  | _ => cases h

theorem truth_comparison (op : BinaryOp) (hop : op.isComparison = true) {a b x y : Value}
    (ha : evaluate env a = .ok x) (hb : evaluate env b = .ok y) :
    truth env (.apply op.operator [a, b]) = .ok (op.holds (x.compare y)) := by
  obtain ⟨c, hName, hDollar, hHolds⟩ := ofName?_operator hop
  have hValue : evaluate env (.apply op.operator [a, b]) =
      .ok (.boolean (c.holds (x.compare y))) := by
    rw [evaluate_onValues hName hDollar, evaluateEach_pair ha hb]
    rfl
  rw [truth_of_evaluate hValue, ← hHolds]
  rfl

theorem truth_present {e x : Value} (h : evaluate env e = .ok x) :
    truth env e.present = .ok (!x.isAbsent) := by
  have hNull : evaluate env .null = .ok .null := rfl
  rw [← Value.compare_null]
  exact truth_comparison .greater rfl h hNull

theorem truth_not (e : Value) : truth env (.apply "$not" [e]) = (truth env e).map not := by
  have hName : Operator.ofName? "$not" = some (.onValues .not) := rfl
  rw [truth, evaluate_onValues hName rfl, truth]
  simp only [evaluateEach]
  cases evaluate env e <;> rfl

theorem truth_and (es : List Value) : truth env (.apply "$and" es) = evaluateAll env es := by
  have hValue : evaluate env (.apply "$and" es) = (evaluateAll env es).map .boolean := by
    rw [Value.apply, Value.single, evaluate]
    rfl
  rw [truth, hValue]
  cases evaluateAll env es <;> rfl

theorem truth_or (es : List Value) : truth env (.apply "$or" es) = evaluateAny env es := by
  have hValue : evaluate env (.apply "$or" es) = (evaluateAny env es).map .boolean := by
    rw [Value.apply, Value.single, evaluate]
    rfl
  rw [truth, hValue]
  cases evaluateAny env es <;> rfl

theorem evaluateAll_cons (e : Value) (es : List Value) :
    evaluateAll env (e :: es) =
      (truth env e).bind fun b => if b then evaluateAll env es else .ok false := by
  rw [evaluateAll, truth]
  cases evaluate env e <;> rfl

theorem evaluateAny_cons (e : Value) (es : List Value) :
    evaluateAny env (e :: es) =
      (truth env e).bind fun b => if b then .ok true else evaluateAny env es := by
  rw [evaluateAny, truth]
  cases evaluate env e <;> rfl

theorem evaluateAll_ok {es : List Value} {bs : List Bool}
    (h : List.Forall₂ (fun e b => truth env e = .ok b) es bs) :
    evaluateAll env es = .ok (bs.all id) := by
  induction h with
  | nil => rfl
  | @cons e b es bs hHead _ ih =>
    rw [evaluateAll_cons, hHead, ih]
    cases b <;> rfl

theorem evaluateAny_ok {es : List Value} {bs : List Bool}
    (h : List.Forall₂ (fun e b => truth env e = .ok b) es bs) :
    evaluateAny env es = .ok (bs.any id) := by
  induction h with
  | nil => rfl
  | @cons e b es bs hHead _ ih =>
    rw [evaluateAny_cons, hHead, ih]
    cases b <;> rfl

theorem evaluateAll_agree {es es' : List Value}
    (h : List.Forall₂ (fun e e' => Agree (truth env e) (truth env e')) es es') :
    Agree (evaluateAll env es) (evaluateAll env es') := by
  induction h with
  | nil => exact .refl _
  | cons hHead _ ih =>
    rw [evaluateAll_cons, evaluateAll_cons]
    refine hHead.bind fun b => ?_
    cases b
    · exact .refl _
    · exact ih

theorem evaluateAny_agree {es es' : List Value}
    (h : List.Forall₂ (fun e e' => Agree (truth env e) (truth env e')) es es') :
    Agree (evaluateAny env es) (evaluateAny env es') := by
  induction h with
  | nil => exact .refl _
  | cons hHead _ ih =>
    rw [evaluateAny_cons, evaluateAny_cons]
    refine hHead.bind fun b => ?_
    cases b
    · exact ih
    · exact .refl _

theorem truth_group_ok (op : GroupOp) {es : List Value} {bs : List Bool}
    (h : List.Forall₂ (fun e b => truth env e = .ok b) es bs) :
    truth env (.apply op.operator es) = .ok (op.holds bs) := by
  cases op with
  | and => exact (truth_and es).trans (evaluateAll_ok h)
  | or => exact (truth_or es).trans (evaluateAny_ok h)

theorem truth_group (op : GroupOp) (es : List Value) :
    truth env (.apply op.operator es) =
      match op with
      | .and => evaluateAll env es
      | .or => evaluateAny env es := by
  cases op with
  | and => exact truth_and es
  | or => exact truth_or es

end

end Pipeline

end RelPipe
