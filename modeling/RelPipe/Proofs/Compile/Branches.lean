import RelPipe.Proofs.Compile.Clause
import RelPipe.Proofs.Compile.PatternCalls

/-!
What the branches of `Iif` come to. Its conditions are evaluated one after the other; the first that
holds decides for its value, the first that fails fails the call, and nothing else is evaluated.
-/

namespace RelPipe

set_option autoImplicit false

open Pipeline

namespace Pipeline

section

variable {α : Type} (outcome : α → Result Value)

/-- The outcome of branches, which are pairs of a condition and a value and, at the end, the value
for all other cases: the outcome of the first value whose condition holds. The first condition that
fails ends the evaluation. -/
def branchOutcome : List α → Result Value
  | condition :: value :: rest => do
    let v ← outcome condition
    if v.isTruthy then outcome value else branchOutcome rest
  | [otherwise] => outcome otherwise
  | [] => .ok .null

/-- The positions of the branches that are evaluated: the conditions up to the first that holds or
fails, and the value that is chosen. -/
def reached : List α → List Nat
  | condition :: _ :: rest =>
    0 :: match outcome condition with
      | .error _ => []
      | .ok v => if v.isTruthy then [1] else (reached rest).map (· + 2)
  | [_] => [0]
  | [] => []

variable {outcome} {condition value : α} {rest : List α}

theorem branchOutcome_of_holds {v : Value} (h : outcome condition = .ok v)
    (hHolds : v.isTruthy = true) :
    branchOutcome outcome (condition :: value :: rest) = outcome value := by
  rw [branchOutcome, h]
  exact if_pos hHolds

theorem branchOutcome_of_not {v : Value} (h : outcome condition = .ok v)
    (hNot : v.isTruthy = false) :
    branchOutcome outcome (condition :: value :: rest) = branchOutcome outcome rest := by
  rw [branchOutcome, h]
  exact if_neg (Bool.eq_false_iff.mp hNot)

theorem branchOutcome_congr {items others : List α} (hLength : others.length = items.length)
    (h : ∀ i ∈ reached outcome items, others[i]? = items[i]?) :
    branchOutcome outcome others = branchOutcome outcome items := by
  match items, others with
  | [], [] => rfl
  | [_], [_] =>
    have hSame := h 0 (.head _)
    simp only [List.getElem?_cons_zero, Option.some.injEq] at hSame
    rw [hSame]
  | condition :: value :: rest, condition' :: value' :: rest' =>
    -- The first condition is evaluated in any case, so the two lists share it.
    obtain rfl : condition' = condition := by simpa using h 0 (.head _)
    cases hCondition : outcome condition' with
    | error e =>
      rw [branchOutcome, branchOutcome, hCondition]
      rfl
    | ok v =>
      rw [reached, hCondition] at h
      cases hTruthy : v.isTruthy with
      | true =>
        obtain rfl : value' = value := by simpa using h 1 (by simp [hTruthy])
        rw [branchOutcome_of_holds hCondition hTruthy, branchOutcome_of_holds hCondition hTruthy]
      | false =>
        rw [branchOutcome_of_not hCondition hTruthy, branchOutcome_of_not hCondition hTruthy]
        exact branchOutcome_congr (Nat.add_right_cancel (m := 2) hLength) fun i hi =>
          h (i + 2) (by simp [hTruthy, hi])

end

theorem evaluate_choice (env : Environment) (condition value otherwise : Value) :
    evaluate env (Call.choice condition value otherwise) =
      evaluate env condition >>= fun v =>
        if v.isTruthy then evaluate env value else evaluate env otherwise := rfl

theorem evaluate_cases (env : Environment) {vs : List Value} (h : vs.length % 2 = 1) :
    evaluate env (Call.cases vs) = branchOutcome (evaluate env) vs := by
  match vs with
  | [otherwise] => rfl
  | condition :: value :: rest =>
    have hRest : rest.length % 2 = 1 := by
      simp only [List.length_cons] at h
      omega
    rw [Call.cases_cons_cons condition value hRest, evaluate_choice, evaluate_cases env hRest]
    rfl

end Pipeline

theorem Pipeline.branchOutcome_map {α β : Type} (f : α → β) (outcome : β → Result Value)
    (items : List α) :
    branchOutcome outcome (items.map f) = branchOutcome (fun a => outcome (f a)) items := by
  match items with
  | [] | [_] => rfl
  | condition :: value :: rest =>
    rw [List.map_cons, List.map_cons, branchOutcome, branchOutcome, branchOutcome_map f]

namespace Site

variable {site : Site} {args : List Expression} {operands : List Operand}

theorem length_of_operands (h : site.operands args = .ok operands) :
    operands.length = args.length := by
  induction args generalizing operands with
  | nil =>
    cases h
    rfl
  | cons e es ih =>
    obtain ⟨o, _, h⟩ := exists_of_bind_eq_ok h
    obtain ⟨os, hos, h⟩ := exists_of_bind_eq_ok h
    cases h
    rw [List.length_cons, List.length_cons, ih hos]

/-- `Iif` is a lazy choice. Where its arguments compile, evaluating the call comes to the same as
evaluating the conditions one after the other up to the first that holds or fails, and then the
value that is chosen. No argument but those decides anything: each of the others may be replaced by
any operand. -/
theorem iif_decides (hArgs : site.operands args = .ok operands) (hLeast : 3 ≤ args.length)
    (hOdd : args.length % 2 = 1) :
    site.compile (.call (.standard .iif) args) = site.resolve (.call (.standard .iif) args)
        (.ok (.computed (Call.cases (operands.map Operand.render)))) ∧
      ∀ env : Environment,
        evaluate env (Call.cases (operands.map Operand.render)) =
          branchOutcome (fun o => evaluate env o.render) operands ∧
        ∀ others : List Operand, others.length = operands.length →
          (∀ i ∈ reached (fun o => evaluate env o.render) operands, others[i]? = operands[i]?) →
          evaluate env (Call.cases (others.map Operand.render)) =
            evaluate env (Call.cases (operands.map Operand.render)) := by
  have hLength := length_of_operands hArgs
  have hEvaluate : ∀ (env : Environment) (os : List Operand), os.length = operands.length →
      evaluate env (Call.cases (os.map Operand.render)) =
        branchOutcome (fun o => evaluate env o.render) os := by
    intro env os hos
    rw [evaluate_cases env (by rw [List.length_map]; omega), branchOutcome_map]
  refine ⟨?_, fun env => ⟨hEvaluate env operands rfl, fun others hOthers h => ?_⟩⟩
  · have hArity : StandardFunction.iif.arity.accepts (compileEach site args).length = true := by
      simp [StandardFunction.arity, Arity.accepts, length_compileEach, hLeast, hOdd]
    rw [compile_standard hArity, Call.template, values_compileEach, hArgs]
    rfl
  · rw [hEvaluate env others hOthers, hEvaluate env operands rfl]
    exact branchOutcome_congr hOthers h

def textPlusOne : Expression := .binary .add (.constant (.string "a")) (.constant (.int32 1))

/-- The values of the first and of the last branch fail, but neither is evaluated. -/
theorem iif_decides_failingBranches :
    files.compile (.call (.standard .iif) [.property "Hidden", textPlusOne, .property "Known",
        fileName, textPlusOne]) =
        .ok (.computed (Call.cases [.string "$Hidden", .apply "$add" [.string "a", .int32 1],
          .string "$Known", .string "$Name", .apply "$add" [.string "a", .int32 1]])) ∧
      evaluate ⟨[("Known", .boolean true), ("Name", .string "notes")], []⟩
          (Call.cases [.string "$Hidden", .apply "$add" [.string "a", .int32 1], .string "$Known",
            .string "$Name", .apply "$add" [.string "a", .int32 1]]) = .ok (.string "notes") ∧
      (evaluate ⟨[], []⟩ (.apply "$add" [.string "a", .int32 1])).toOption = none := by
  obtain ⟨hCompile, hEvaluate⟩ := @iif_decides files
    [.property "Hidden", textPlusOne, .property "Known", fileName, textPlusOne]
    [.field "$Hidden", .computed (.apply "$add" [.string "a", .int32 1]), .field "$Known",
      .field "$Name", .computed (.apply "$add" [.string "a", .int32 1])] rfl (by decide) (by decide)
  exact ⟨hCompile, (hEvaluate _).1.trans rfl, rfl⟩

end Site

end RelPipe
