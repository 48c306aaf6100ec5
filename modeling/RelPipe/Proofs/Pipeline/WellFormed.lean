import RelPipe.Proofs.Pipeline.Running

/-!
Expressions whose operators have arguments of the form that they take. Evaluating one fails only
for the values that it comes upon, for a pattern that is none, or at an operator that is not known.
-/

namespace RelPipe

set_option autoImplicit false

def Value.isAtom : Value → Bool
  | .array _ | .document _ => false
  | _ => true

namespace Pipeline

/-- Faults of the values of arguments, as opposed to the number and the form of arguments. -/
def Fault.isOfData : Fault → Bool
  | notConcatenable | notText | inputNotText | regexNotText | negativeIndex | notNumeric _
  | divisionByZero | overflow => true
  | _ => false

/-- The errors that remain when every stage and every operator is written as it should be. -/
inductive Error.Residual : Error → Prop where
  | unknownOperator {name : String} (h : Operator.ofName? name = none) :
    Residual (.unsupportedOperator name)
  | fault {operator : String} {fault : Fault} (h : fault.isOfData = true) :
    Residual (.invalidArgument operator fault)
  | invalidRegex : Residual .invalidRegex

def ValueOperator.takes : ValueOperator → List Value → Bool
  | member, [_, .array _] => true
  | member, _ => false
  | op, arguments => op.arity?.all fun n => arguments.length = n

namespace Operator

def accepts : Operator → Value → Bool
  | literal, _ | all, _ | any, _ => true
  | choice, .array items => items.length = 3
  | choice, .document fields =>
    Fields.contains fields "if" && Fields.contains fields "then" && Fields.contains fields "else"
  | trim _, .document fields => Fields.contains fields "input"
  | search, .document _ => true
  | onValues op, .array items => op.takes items
  | onValues op, v => op.takes [v]
  | _, _ => false

def parts : Operator → Value → List Value
  | literal, _ => []
  | _, .array items => items
  | choice, .document fields | trim _, .document fields | search, .document fields =>
    fields.map Prod.snd
  | _, v => [v]

theorem dollar_of_ofName? {name : String} {op : Operator} (h : ofName? name = some op) :
    Text.dollar name = true := by
  unfold ofName? at h
  split at h
  case h_37 => cases h
  all_goals rfl

end Operator

/-- An expression whose operators are applied as they should be. What an unknown operator is
applied to does not count, since it is never evaluated. -/
inductive WellFormed : Value → Prop where
  | atom {v : Value} (h : v.isAtom = true) : WellFormed v
  | array {items : List Value} (h : ∀ v ∈ items, WellFormed v) : WellFormed (.array items)
  | document {fields : Document} (hNames : ∀ field ∈ fields, Text.dollar field.1 = false)
    (h : ∀ field ∈ fields, WellFormed field.2) : WellFormed (.document fields)
  | unknown {name : String} {argument : Value} (hDollar : Text.dollar name = true)
    (hName : Operator.ofName? name = none) : WellFormed (.single name argument)
  | operator {name : String} {op : Operator} {argument : Value}
    (hName : Operator.ofName? name = some op) (hAccepts : op.accepts argument = true)
    (h : ∀ v ∈ op.parts argument, WellFormed v) : WellFormed (.single name argument)

@[simp] theorem WellFormed.string (s : String) : WellFormed (.string s) := .atom rfl

/-! Operators on values -/

theorem length_filterMap_of_isSome {α β : Type} {f : α → Option β} {items : List α}
    (h : ∀ a ∈ items, (f a).isSome = true) : (items.filterMap f).length = items.length := by
  rw [List.length_filterMap_eq_countP, List.countP_eq_length]
  exact h

namespace ArithmeticOp

theorem failsOnly_onIntegers {op : ArithmeticOp} {ns : List Int} (hDivide : op ≠ .divide)
    (hLength : op = .add ∨ op = .multiply ∨ ns.length = 2) :
    FailsOnly (Fault.isOfData ·) (op.onIntegers ns) := by
  have hChecked : ∀ n? : Option Int,
      FailsOnly (Fault.isOfData ·) (n?.elim (.error .overflow) Except.ok) := by
    intro n?
    cases n? with
    | none => exact .error rfl
    | some n => exact .ok
  cases op with
  | add | multiply => exact hChecked _
  | divide => exact absurd rfl hDivide
  | subtract =>
    obtain ⟨m, n, rfl⟩ := List.length_eq_two.mp (by simpa using hLength)
    exact hChecked _
  | modulo =>
    obtain ⟨m, n, rfl⟩ := List.length_eq_two.mp (by simpa using hLength)
    rw [onIntegers]
    split
    · exact .error rfl
    · split
      · exact .error rfl
      · exact .ok

theorem failsOnly_onDoubles {op : ArithmeticOp} {xs : List Number.Binary64}
    (hLength : op = .add ∨ op = .multiply ∨ xs.length = 2) :
    FailsOnly (Fault.isOfData ·) (op.onDoubles xs) := by
  cases op with
  | add | multiply => exact .ok
  | subtract | modulo =>
    obtain ⟨x, y, rfl⟩ := List.length_eq_two.mp (by simpa using hLength)
    exact .ok
  | divide =>
    obtain ⟨x, y, rfl⟩ := List.length_eq_two.mp (by simpa using hLength)
    rw [onDoubles]
    split
    · exact .error rfl
    · exact .ok

theorem failsOnly_apply {op : ArithmeticOp} {vs : List Value}
    (hLength : op = .add ∨ op = .multiply ∨ vs.length = 2) :
    FailsOnly (Fault.isOfData ·) (op.apply vs) := by
  unfold apply
  split
  · exact .ok
  · split
    · exact .error rfl
    · rename_i hNumeric
      have hNumeric : ∀ v ∈ vs, v.isNumeric = true := by simpa using hNumeric
      -- No number is lost in the conversion, so there are as many as there are arguments.
      split
      · rename_i hIntegral
        rw [Bool.and_eq_true, decide_eq_true_eq, List.all_eq_true] at hIntegral
        have hCount : ((vs.filterMap Value.toInt64?).map Int64.toInt).length = vs.length := by
          rw [List.length_map]
          refine length_filterMap_of_isSome fun v hv => ?_
          have hKind := hIntegral.1 v hv
          cases v <;> first | rfl | cases hKind
        exact (failsOnly_onIntegers hIntegral.2 (by rwa [hCount])).map _
      · have hCount : (vs.filterMap Value.toBinary64?).length = vs.length := by
          refine length_filterMap_of_isSome fun v hv => ?_
          have hKind := hNumeric v hv
          cases v <;> first | rfl | cases hKind
        exact (failsOnly_onDoubles (by rwa [hCount])).map _

end ArithmeticOp

namespace ValueOperator

theorem failsOnly_concatenated (vs : List Value) :
    FailsOnly (Fault.isOfData ·) (concatenated vs) := by
  induction vs with
  | nil => exact .ok
  | cons v vs ih =>
    cases v with
    | null | undefined => exact .ok
    | string s =>
      refine ih.bind fun w _ => ?_
      cases w <;> exact .ok
    | _ => exact .error rfl

theorem failsOnly_index (v : Value) : FailsOnly (Fault.isOfData ·) (index v) := by
  unfold index
  cases Value.index? v with
  | none => exact .error rfl
  | some n => exact .ok

theorem length_of_takes {op : ValueOperator} {vs : List Value} (hTakes : op.takes vs = true)
    {n : Nat} (h : op.arity? = some n) : vs.length = n := by
  cases op with
  | member =>
    cases h
    unfold takes at hTakes
    split at hTakes <;> simp_all
  | _ => simpa [takes, h] using hTakes

theorem failsOnly_apply {op : ValueOperator} {vs : List Value} (hTakes : op.takes vs = true) :
    FailsOnly (Fault.isOfData ·) (op.apply vs) := by
  have hArguments : op.apply vs = op.onArguments vs := by
    unfold apply
    split
    · rename_i n hArity
      exact if_pos (length_of_takes hTakes hArity)
    · rfl
  have hLength := fun n => length_of_takes (n := n) hTakes
  rw [hArguments]
  cases op with
  | concat => exact failsOnly_concatenated vs
  | ifNull => exact .ok
  | arithmetic op =>
    refine ArithmeticOp.failsOnly_apply ?_
    cases op with
    | add | multiply => simp
    | _ => exact .inr (.inr (hLength 2 rfl))
  | member =>
    unfold takes at hTakes
    split at hTakes
    · exact .ok
    all_goals simp_all
  | test | compare =>
    obtain ⟨v, w, rfl⟩ := List.length_eq_two.mp (hLength 2 rfl)
    exact .ok
  | slice =>
    obtain ⟨v, start, length, rfl⟩ := List.length_eq_three.mp (hLength 3 rfl)
    exact (failsOnly_index start).bind fun _ _ => (failsOnly_index length).bind fun _ _ => .ok
  | charCount =>
    obtain ⟨v, rfl⟩ := List.length_eq_one_iff.mp (hLength 1 rfl)
    cases v with
    | string s => exact .ok
    | _ => exact .error rfl
  | _ =>
    obtain ⟨v, rfl⟩ := List.length_eq_one_iff.mp (hLength 1 rfl)
    exact .ok

end ValueOperator

/-! Evaluation -/

section

variable {env : Environment} {P : Error → Prop}

theorem failsOnly_evaluateEach {items : List Value}
    (h : ∀ v ∈ items, FailsOnly P (evaluate env v)) : FailsOnly P (evaluateEach env items) := by
  induction items with
  | nil => exact .ok
  | cons v rest ih =>
    obtain ⟨hFirst, hRest⟩ := List.forall_mem_cons.mp h
    exact hFirst.bind fun _ _ => (ih hRest).bind fun _ _ => .ok

theorem failsOnly_evaluateAll {items : List Value}
    (h : ∀ v ∈ items, FailsOnly P (evaluate env v)) : FailsOnly P (evaluateAll env items) := by
  induction items with
  | nil => exact .ok
  | cons v rest ih =>
    obtain ⟨hFirst, hRest⟩ := List.forall_mem_cons.mp h
    refine hFirst.bind fun w _ => ?_
    split
    · exact ih hRest
    · exact .ok

theorem failsOnly_evaluateAny {items : List Value}
    (h : ∀ v ∈ items, FailsOnly P (evaluate env v)) : FailsOnly P (evaluateAny env items) := by
  induction items with
  | nil => exact .ok
  | cons v rest ih =>
    obtain ⟨hFirst, hRest⟩ := List.forall_mem_cons.mp h
    refine hFirst.bind fun w _ => ?_
    split
    · exact .ok
    · exact ih hRest

theorem failsOnly_evaluateFields {fields : List (String × Value)}
    (h : ∀ field ∈ fields, FailsOnly P (evaluate env field.2)) :
    FailsOnly P (evaluateFields env fields) := by
  induction fields with
  | nil => exact .ok
  | cons field rest ih =>
    obtain ⟨hFirst, hRest⟩ := List.forall_mem_cons.mp h
    exact hFirst.bind fun _ _ => (ih hRest).bind fun _ _ => .ok

theorem failsOnly_evaluateField {fields : List (String × Value)}
    (h : ∀ v ∈ fields.map Prod.snd, FailsOnly P (evaluate env v)) (name : String) :
    FailsOnly P (evaluateField env name fields) := by
  induction fields with
  | nil => exact .ok
  | cons field rest ih =>
    rw [List.map_cons, List.forall_mem_cons] at h
    rw [evaluateField]
    split
    · exact h.1
    · exact ih h.2

theorem evaluateEach_singleton {e v : Value} (h : evaluate env e = .ok v) :
    evaluateEach env [e] = .ok [v] := by
  rw [evaluateEach, h]
  rfl

theorem ValueOperator.takes_of_evaluateEach {op : ValueOperator} {items vs : List Value}
    (hTakes : op.takes items = true) (h : evaluateEach env items = .ok vs) :
    op.takes vs = true := by
  have hLength : ∀ {items vs : List Value}, evaluateEach env items = .ok vs →
      vs.length = items.length := by
    intro items
    induction items with
    | nil =>
      intro vs h
      cases h
      rfl
    | cons v rest ih =>
      intro vs h
      obtain ⟨w, _, h⟩ := exists_of_bind_eq_ok h
      obtain ⟨ws, hws, h⟩ := exists_of_bind_eq_ok h
      cases h
      exact congrArg Nat.succ (ih hws)
  cases op with
  | member =>
    unfold takes at hTakes
    split at hTakes
    · -- The candidates are written as an array, and an array evaluates to an array.
      obtain ⟨v, _, h⟩ := exists_of_bind_eq_ok h
      obtain ⟨ws, hws, h⟩ := exists_of_bind_eq_ok h
      obtain ⟨candidates, hArray, hws⟩ := exists_of_bind_eq_ok hws
      obtain ⟨cs, _, hArray⟩ := exists_of_bind_eq_ok hArray
      cases hArray
      cases hws
      cases h
      rfl
    all_goals simp_all
  | _ => simpa [takes, hLength h] using hTakes

theorem failsOnly_blame {operator : String} {x : Except Fault Value}
    (h : FailsOnly (Fault.isOfData ·) x) : FailsOnly Error.Residual (blame operator x) := by
  cases x with
  | ok v => exact .ok
  | error fault => exact .error (.fault (h fault rfl))

theorem failsOnly_search {input regex options : Result Value}
    (hInput : FailsOnly Error.Residual input) (hRegex : FailsOnly Error.Residual regex)
    (hOptions : FailsOnly Error.Residual options) :
    FailsOnly Error.Residual (search input regex options) := by
  refine hInput.bind fun text _ => ?_
  split
  · refine hRegex.bind fun pattern _ => ?_
    split
    · refine hOptions.bind fun letters _ => .map ?_ _
      unfold occurs
      split
      · exact .ok
      · exact .error .invalidRegex
    · exact .error (.fault rfl)
  · exact .ok
  · exact .ok
  · exact .error (.fault rfl)

theorem failsOnly_operator {name : String} {op : Operator} {argument : Value}
    (hName : Operator.ofName? name = some op) (hAccepts : op.accepts argument = true)
    (h : ∀ v ∈ op.parts argument, FailsOnly Error.Residual (evaluate env v)) :
    FailsOnly Error.Residual (evaluate env (.single name argument)) := by
  rw [Value.single, evaluate.eq_def]
  dsimp only
  rw [if_pos (Operator.dollar_of_ofName? hName), hName]
  cases op with
  | literal => exact .ok
  | all =>
    cases argument with
    | array items => exact (failsOnly_evaluateAll h).map _
    | _ => exact (h _ (.head _)).bind fun _ _ => .ok
  | any =>
    cases argument with
    | array items => exact (failsOnly_evaluateAny h).map _
    | _ => exact (h _ (.head _)).bind fun _ _ => .ok
  | choice =>
    cases argument with
    | array items =>
      obtain ⟨condition, first, second, rfl⟩ :=
        List.length_eq_three.mp (by simpa [Operator.accepts] using hAccepts)
      refine (h condition (by simp [Operator.parts])).bind fun v _ => ?_
      split
      · exact h first (by simp [Operator.parts])
      · exact h second (by simp [Operator.parts])
    | document fields =>
      have hField := failsOnly_evaluateField h
      rw [Operator.accepts] at hAccepts
      dsimp only
      rw [if_pos hAccepts]
      refine (hField "if").bind fun v _ => ?_
      split
      · exact hField "then"
      · exact hField "else"
    | _ => cases hAccepts
  | trim side =>
    cases argument with
    | document fields =>
      have hField := failsOnly_evaluateField h
      rw [Operator.accepts] at hAccepts
      dsimp only
      rw [if_pos hAccepts]
      refine (hField "input").bind fun v _ => ?_
      cases v with
      | string s =>
        dsimp only
        split
        · exact (hField "chars").bind fun _ _ => .ok
        · exact .ok
      | _ => exact .ok
    | _ => cases hAccepts
  | search =>
    cases argument with
    | document fields =>
      have hField := failsOnly_evaluateField h
      exact failsOnly_search (hField "input") (hField "regex") (hField "options")
    | _ => cases hAccepts
  | onValues op =>
    cases argument with
    | array items =>
      refine (failsOnly_evaluateEach h).bind fun vs hvs => failsOnly_blame ?_
      exact ValueOperator.failsOnly_apply (ValueOperator.takes_of_evaluateEach hAccepts hvs)
    | _ =>
      refine (h _ (.head _)).bind fun v hv => failsOnly_blame ?_
      have hTakes := ValueOperator.takes_of_evaluateEach hAccepts (evaluateEach_singleton hv)
      exact ValueOperator.failsOnly_apply hTakes

theorem failsOnly_evaluate {v : Value} (h : WellFormed v) (env : Environment) :
    FailsOnly Error.Residual (evaluate env v) := by
  induction h with
  | @atom v hAtom =>
    cases v with
    | array | document => cases hAtom
    | _ => exact .ok
  | array _ ih => exact (failsOnly_evaluateEach ih).bind fun _ _ => .ok
  | document hNames _ ih =>
    rw [evaluate_document hNames]
    exact (failsOnly_evaluateFields ih).map _
  | unknown hDollar hName =>
    rw [Value.single, evaluate.eq_def]
    dsimp only
    rw [if_pos hDollar, hName]
    exact .error (.unknownOperator hName)
  | operator hName hAccepts _ ih => exact failsOnly_operator hName hAccepts ih

end

end Pipeline

end RelPipe
