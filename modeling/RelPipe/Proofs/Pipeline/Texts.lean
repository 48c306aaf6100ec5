import Mathlib.Algebra.Group.Nat.Defs
import RelPipe.Compile.Call
import RelPipe.Proofs.Pipeline.Integers
import RelPipe.Proofs.Pipeline.Truth

/-!
Operators on texts: counting, trimming, cutting and joining. A count is reported in 32 bits, and a
text is cut only at places that are not negative.
-/

namespace RelPipe.Pipeline

set_option autoImplicit false

variable {env : Environment} {v : Value} {s : String}

theorem evaluate_onValue {name : String} {op : ValueOperator}
    (hName : Operator.ofName? name = some (.onValues op)) (hDollar : Text.dollar name = true)
    {x : Value} (h : evaluate env v = .ok x) (hx : ∀ items, x ≠ .array items) :
    evaluate env (.single name v) = blame name (op.apply [x]) := by
  cases v with
  | array items =>
    rw [evaluate] at h
    cases hItems : evaluateEach env items with
    | error e =>
      rw [hItems] at h
      cases h
    | ok vs =>
      rw [hItems] at h
      exact absurd (Except.ok.inj h).symm (hx _)
  | _ =>
    rw [Value.single, evaluate.eq_def]
    simp only [hDollar, hName, h]
    rfl

/-- The number of characters of a text as it is reported, in 32 bits. -/
def reportedCount (cs : List Char) : Int := (Int32.ofInt cs.length).toInt

theorem reportedCount_eq {cs : List Char} (h : cs.length < 2 ^ 31) :
    reportedCount cs = cs.length := Int32.toInt_ofInt_of_le (by omega) (by omega)

theorem bounds_reportedCount (cs : List Char) :
    -0x80000000 ≤ reportedCount cs ∧ reportedCount cs < 0x80000000 :=
  ⟨Int32.le_toInt _, Int32.toInt_lt _⟩

theorem integer?_reportedCount (cs : List Char) :
    (Value.int32 (.ofInt cs.length)).integer? = some (reportedCount cs) := rfl

theorem evaluate_charCount (h : evaluate env v = .ok (.string s)) :
    evaluate env (Call.charCount v) = .ok (.int32 (.ofInt s.toList.length)) := by
  have hName : Operator.ofName? "$strLenCP" = some (.onValues .charCount) := rfl
  rw [Call.charCount, evaluate_onValue hName rfl h nofun]
  rfl

theorem evaluate_trim (side : TrimSide) (h : evaluate env v = .ok (.string s)) :
    evaluate env (.single side.operator (.document [("input", v), ("chars", .string " ")])) =
      .ok (.string (String.ofList (side.apply (· == ' ') s.toList))) := by
  have hName : Operator.ofName? side.operator = some (.trim side) := by cases side <;> rfl
  have hDollar : Text.dollar side.operator = true := by cases side <;> rfl
  have hInput : evaluateField env "input" [("input", v), ("chars", .string " ")] =
      .ok (.string s) := by rw [evaluateField, if_pos rfl, h]
  have hBlank : [' '].contains = (· == ' ') := by
    funext c
    rw [List.contains_cons, List.contains_nil, Bool.or_false]
  have hChars : evaluateField env "chars" [("input", v), ("chars", .string " ")] =
      .ok (.string " ") := by
    rw [evaluateField, if_neg (by decide), evaluateField, if_pos rfl, evaluate]
    rfl
  have hHasInput : Fields.contains [("input", v), ("chars", .string " ")] "input" = true := rfl
  have hHasChars : Fields.contains [("input", v), ("chars", .string " ")] "chars" = true := rfl
  rw [Value.single, evaluate.eq_def]
  dsimp only
  rw [if_pos hDollar, hName]
  dsimp only
  rw [if_pos hHasInput, hInput]
  simp only [bind, Except.bind]
  rw [if_pos hHasChars, hChars, ← hBlank]
  rfl

def asText (cs : List Char) : Value := .string (String.ofList cs)

/-- The characters from `start` on, at most `length` of them. Neither number may be negative. -/
def part (cs : List Char) (start length : Int) : Result (List Char) :=
  if start < 0 ∨ length < 0 then .error (.invalidArgument "$substrCP" .negativeIndex)
  else .ok ((cs.drop start.toNat).take length.toNat)

theorem part_eq_ok {cs : List Char} {start length : Int} (hStart : 0 ≤ start)
    (hLength : 0 ≤ length) : part cs start length = .ok ((cs.drop start.toNat).take length.toNat) :=
  if_neg (by omega)

theorem part_eq_error {cs : List Char} {start length : Int} (h : start < 0 ∨ length < 0) :
    part cs start length = .error (.invalidArgument "$substrCP" .negativeIndex) :=
  if_pos h

theorem evaluate_slice {start length x y : Value} {n m : Int}
    (h : evaluate env v = .ok (.string s)) (hStart : evaluate env start = .ok x)
    (hx : x.integer? = some n) (hLength : evaluate env length = .ok y) (hy : y.integer? = some m) :
    evaluate env (Call.slice v start length) =
      (part s.toList n m).map asText := by
  have hName : Operator.ofName? "$substrCP" = some (.onValues .slice) := rfl
  have hEach : evaluateEach env [v, start, length] = .ok [.string s, x, y] := by
    rw [evaluateEach, h, evaluateEach_pair hStart hLength]
    rfl
  have hApply : ValueOperator.slice.apply [.string s, x, y] =
      (ValueOperator.index x).bind fun n => (ValueOperator.index y).bind fun m =>
        .ok (.string (String.ofList ((s.toList.drop n).take m))) := rfl
  rw [Call.slice, evaluate_onValues hName rfl, hEach]
  change blame "$substrCP" (ValueOperator.slice.apply [.string s, x, y]) = _
  rw [hApply, ValueOperator.index, ValueOperator.index, Value.index?_of_integer? hx,
    Value.index?_of_integer? hy]
  by_cases hFirst : n < 0
  · rw [if_pos hFirst, part_eq_error (.inl hFirst)]
    rfl
  by_cases hSecond : m < 0
  · rw [if_neg hFirst, if_pos hSecond, part_eq_error (.inr hSecond)]
    rfl
  rw [if_neg hFirst, if_neg hSecond, part_eq_ok (by omega) (by omega)]
  rfl

section

variable {a b x y : Value} {n m : Int}

theorem evaluate_arithmetic {op : ArithmeticOp} {name : String} {k : Int} {z : Value}
    (hName : Operator.ofName? name = some (.onValues (.arithmetic op)))
    (hDollar : Text.dollar name = true) (ha : evaluate env a = .ok x) (hb : evaluate env b = .ok y)
    (hApply : op.apply [x, y] = if ArithmeticOp.Fits k then .ok z else .error .overflow) :
    evaluate env (.apply name [a, b]) =
      if ArithmeticOp.Fits k then .ok z else .error (.invalidArgument name .overflow) := by
  have hPair : (ValueOperator.arithmetic op).apply [x, y] = op.apply [x, y] := by cases op <;> rfl
  rw [evaluate_onValues hName hDollar, evaluateEach_pair ha hb]
  change blame name ((ValueOperator.arithmetic op).apply [x, y]) = _
  rw [hPair, hApply]
  split <;> rfl

theorem evaluate_add (ha : evaluate env a = .ok x) (hx : x.integer? = some n)
    (hb : evaluate env b = .ok y) (hy : y.integer? = some m) :
    evaluate env (.apply "$add" [a, b]) =
      if ArithmeticOp.Fits (n + m) then
        .ok (ArithmeticOp.narrowed (x.isInt32 && y.isInt32) (n + m))
      else .error (.invalidArgument "$add" .overflow) :=
  evaluate_arithmetic rfl rfl ha hb (ArithmeticOp.apply_add hx hy)

theorem evaluate_subtract (ha : evaluate env a = .ok x) (hx : x.integer? = some n)
    (hb : evaluate env b = .ok y) (hy : y.integer? = some m) :
    evaluate env (.apply "$subtract" [a, b]) =
      if ArithmeticOp.Fits (n - m) then
        .ok (ArithmeticOp.narrowed (x.isInt32 && y.isInt32) (n - m))
      else .error (.invalidArgument "$subtract" .overflow) :=
  evaluate_arithmetic rfl rfl ha hb (ArithmeticOp.apply_subtract hx hy)

end

theorem concatenated_map_asText (texts : List (List Char)) :
    ValueOperator.concatenated (texts.map asText) = .ok (asText texts.flatten) := by
  induction texts with
  | nil => rfl
  | cons t texts ih =>
    rw [List.map_cons, asText, ValueOperator.concatenated, ih, List.flatten_cons, asText, asText,
      String.ofList_append]
    rfl

theorem evaluate_concat {es : List Value} {e : Value} {texts : List (List Char)}
    {last : Result (List Char)}
    (hTexts : List.Forall₂ (fun e t => evaluate env e = .ok (asText t)) es texts)
    (hLast : evaluate env e = last.map asText) :
    evaluate env (.apply "$concat" (es ++ [e])) =
      last.map fun cs => asText (texts.flatten ++ cs) := by
  have hEach : evaluateEach env (es ++ [e]) =
      last.map fun cs => (texts ++ [cs]).map asText := by
    induction hTexts with
    | nil =>
      rw [List.nil_append, evaluateEach, hLast]
      cases last <;> rfl
    | cons hFirst _ ih =>
      rw [List.cons_append, evaluateEach, hFirst, ih]
      cases last <;> rfl
  have hName : Operator.ofName? "$concat" = some (.onValues .concat) := rfl
  rw [evaluate_onValues hName rfl, hEach]
  cases last with
  | error e => rfl
  | ok cs =>
    change blame "$concat" (ValueOperator.concatenated _) = _
    rw [concatenated_map_asText, List.flatten_concat]
    rfl

end RelPipe.Pipeline
