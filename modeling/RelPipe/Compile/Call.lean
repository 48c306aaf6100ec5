import RelPipe.Compile.Arity
import RelPipe.Compile.Error
import RelPipe.Compile.Operand
import RelPipe.Compile.Pattern
import RelPipe.Number.Numeral

/-!
Compiled calls. Each standard function has a template over its compiled arguments; the arguments
are taken in the order in which the template names them, and the first that does not compile fails
the call.
-/

namespace RelPipe

set_option autoImplicit false

structure Argument where
  expression : Expression
  operand : Except CompileError Operand

def Argument.value (a : Argument) : Except CompileError Value := a.operand.map Operand.render

/-- The text of a constant that can serve as a pattern. Null is the empty pattern. -/
def Value.patternText? : Value → Option String
  | .null => some ""
  | .string s => some s
  | .int32 n => some (Text.Numeral.ofInt n.toInt)
  | .int64 n => some (Text.Numeral.ofInt n.toInt)
  | .double x => some x.text
  | _ => none

def Argument.pattern (a : Argument) : Except CompileError String := do
  match (← a.operand).constant?.bind Value.patternText? with
  | some text => .ok text
  | none => .error (.nonConstantPattern a.expression)

/-- A search for a regular expression. Letter case is ignored unless it is significant. -/
def Value.matching (caseSensitive : Bool) (input : Value) (regex : List Char) : Value :=
  .single "$regexMatch" (.document
    ([("input", input), ("regex", .string (String.ofList regex))]
      ++ if caseSensitive then [] else [("options", .string "i")]))

/-- The search that a LIKE predicate stands for. The input is compiled before the pattern. -/
def likeCall (caseSensitive : Bool) (input pattern : Argument) : Except CompileError Value := do
  let input ← input.value
  let pattern ← pattern.pattern
  .ok (.matching caseSensitive input (Pattern.ofLike pattern.toList))

namespace Call

def charCount (v : Value) : Value := .single "$strLenCP" v

def slice (source start length : Value) : Value := .apply "$substrCP" [source, start, length]

def half : Value := .double (.ofQuotient false 1 2)

/-- Rounds to the nearest integer, halves away from zero. -/
def rounded (v : Value) : Value :=
  .apply "$cond"
    [.apply "$gt" [v, .int32 0],
     .single "$floor" (.apply "$add" [v, half]),
     .single "$ceil" (.apply "$subtract" [v, half])]

/-- The number of characters without trailing spaces: those left when both ends are trimmed, and
the leading spaces. -/
def trimmedLength (v : Value) : Value :=
  let blanks : Value → Value := fun v => .document [("input", v), ("chars", .string " ")]
  .apply "$add"
    [charCount (.single "$trim" (blanks v)),
     .apply "$subtract" [charCount v, charCount (.single "$ltrim" (blanks v))]]

def reversed (v : Value) : Value :=
  .single "$reduce" (.document
    [("input", .single "$reverseArray" (.apply "$split" [v, .string ""])),
     ("initialValue", .string ""),
     ("in", .apply "$concat" [.string "$$value", .string "$$this"])])

def inserted (source position text : Value) : Value :=
  .apply "$concat"
    [slice source (.int32 0) position, text, slice source position (charCount source)]

/-- A text without `length` characters from `start` on. -/
def removed (source start length : Value) : Value :=
  let rest := Value.apply "$add" [start, length]
  .apply "$concat"
    [slice source (.int32 0) start,
     slice source rest (.apply "$subtract" [charCount source, rest])]

def choice (condition value otherwise : Value) : Value :=
  .single "$cond" (.document [("if", condition), ("then", value), ("else", otherwise)])

/-- Wraps choices around a value, from branches in reverse: each value stands before its condition.
-/
def wrapped (otherwise : Value) : List Value → Value
  | value :: condition :: rest => wrapped (choice condition value otherwise) rest
  | _ => otherwise

/-- The first value whose condition holds, from pairs of a condition and a value, and the last
value if none does. The choices are built from the last one outwards. -/
def cases (branches : List Value) : Value :=
  match branches.reverse with
  | otherwise :: rest => wrapped otherwise rest
  | [] => .null

/-- The last two branches in reverse are the first condition and its value, which are outermost. -/
theorem wrapped_concat {otherwise condition value : Value} {rest : List Value}
    (h : rest.length % 2 = 0) :
    wrapped otherwise (rest ++ [value, condition]) =
      choice condition value (wrapped otherwise rest) := by
  fun_induction wrapped otherwise rest with
  | case1 otherwise innerValue innerCondition rest ih =>
    simp only [List.length_cons] at h
    exact ih (by omega)
  | case2 rest otherwise hShort =>
    match rest with
    | [] => rfl
    | [_] => cases h
    | _ :: _ :: _ => exact absurd rfl (hShort _ _ _)

theorem cases_cons_cons (condition value : Value) {rest : List Value} (h : rest.length % 2 = 1) :
    cases (condition :: value :: rest) = choice condition value (cases rest) := by
  have hReversed : (condition :: value :: rest).reverse = rest.reverse ++ [value, condition] := by
    simp
  rw [← List.length_reverse] at h
  rw [cases, cases, hReversed]
  cases hRest : rest.reverse with
  | nil =>
    rw [hRest] at h
    cases h
  | cons otherwise inner =>
    rw [hRest, List.length_cons] at h
    exact wrapped_concat (by omega)

def values : List Argument → Except CompileError (List Value)
  | [] => .ok []
  | a :: rest => do
    let v ← a.value
    let vs ← values rest
    .ok (v :: vs)

def optional (args : List Argument) (index : Nat) : Except CompileError (Option Value) :=
  match args[index]? with
  | some a => a.value.map some
  | none => .ok none

def value (args : List Argument) (index : Nat) : Except CompileError Value :=
  match args[index]? with
  | some a => a.value
  | none => .ok .null

def pattern (args : List Argument) (index : Nat) : Except CompileError (List Char) :=
  match args[index]? with
  | some a => a.pattern.map String.toList
  | none => .ok []

def unary (operator : String) (args : List Argument) : Except CompileError Value :=
  (value args 0).map (.single operator)

def template (caseSensitive : Bool) (f : StandardFunction) (args : List Argument) :
    Except CompileError Value := do
  match f with
  | .concat => .ok (.apply "$concat" (← values args))
  | .trim => .ok (.single "$trim" (.single "input" (← value args 0)))
  | .isNullOrEmpty =>
    .ok (.apply "$eq" [.apply "$ifNull" [← value args 0, .string ""], .string ""])
  | .len => .ok (trimmedLength (← value args 0))
  | .substring =>
    let source ← value args 0
    let length ← optional args 2
    let start ← value args 1
    .ok (slice source start (length.getD (charCount source)))
  | .replace =>
    let input ← value args 0
    let find ← value args 1
    let replacement ← optional args 2
    .ok (.single "$replaceAll" (.document
      [("input", input), ("find", find), ("replacement", replacement.getD (.string ""))]))
  | .reverse => .ok (reversed (← value args 0))
  | .insert =>
    let source ← value args 0
    let position ← value args 1
    let text ← value args 2
    .ok (inserted source position text)
  | .remove =>
    let source ← value args 0
    let start ← value args 1
    let length ← optional args 2
    .ok (removed source start (length.getD (charCount source)))
  | .charIndex =>
    let source ← value args 1
    let sought ← value args 0
    let start ← optional args 2
    .ok (.apply "$indexOfCP"
      ([.single "$toLower" source, .single "$toLower" sought] ++ start.toList))
  | .sign => .ok (.apply "$cmp" [← value args 0, .int32 0])
  | .round =>
    let number ← value args 0
    let places ← optional args 1
    .ok (.apply "$round" (number :: places.toList))
  | .atn2 =>
    let y ← value args 0
    let x ← optional args 1
    .ok (.apply "$atan2" [y, x.getD (.int32 0)])
  | .log =>
    match ← optional args 1 with
    | none => .ok (.single "$ln" (← value args 0))
    | some base => .ok (.apply "$divide" [.single "$ln" (← value args 0), .single "$ln" base])
  | .power => .ok (.apply "$pow" [← value args 0, ← value args 1])
  | .rnd => .ok (.single "$rand" (.document []))
  | .bigMul => .ok (.apply "$multiply" [← value args 0, ← value args 1])
  | .iif => .ok (cases (← values args))
  | .isNull =>
    let input ← value args 0
    let replacement ← optional args 1
    .ok (.apply "$ifNull" [input, replacement.getD .null])
  | .contains =>
    let text ← pattern args 1
    .ok (.matching caseSensitive (← value args 0) (Pattern.escape text))
  | .startsWith =>
    let text ← pattern args 1
    .ok (.matching caseSensitive (← value args 0) ('^' :: Pattern.escape text))
  | .endsWith =>
    let text ← pattern args 1
    .ok (.matching caseSensitive (← value args 0) (Pattern.escape text ++ ['$']))
  | .toInt => .ok (.single "$toInt" (rounded (← value args 0)))
  | .toLong => .ok (.single "$toLong" (rounded (← value args 0)))
  | .lower => unary "$toLower" args
  | .upper => unary "$toUpper" args
  | .toStr => unary "$toString" args
  | .abs => unary "$abs" args
  | .floor => unary "$floor" args
  | .ceiling => unary "$ceil" args
  | .sqr => unary "$sqrt" args
  | .cos => unary "$cos" args
  | .sin => unary "$sin" args
  | .tan => unary "$tan" args
  | .atn => unary "$atan" args
  | .acos => unary "$acos" args
  | .asin => unary "$asin" args
  | .cosh => unary "$cosh" args
  | .sinh => unary "$sinh" args
  | .tanh => unary "$tanh" args
  | .exp => unary "$exp" args
  | .log10 => unary "$log10" args
  | .getYear => unary "$year" args
  | .getMonth => unary "$month" args
  | .getDay => unary "$dayOfMonth" args
  | .getHour => unary "$hour" args
  | .getMinute => unary "$minute" args
  | .getSecond => unary "$second" args
  | .getMilliSecond => unary "$millisecond" args
  | .getDayOfWeek => unary "$dayOfWeek" args
  | .getDayOfYear => unary "$dayOfYear" args
  | .toDouble | .toFloat => unary "$toDouble" args
  | .toDecimal => unary "$toDecimal" args

def standard (caseSensitive : Bool) (f : StandardFunction) (args : List Argument) :
    Except CompileError Value :=
  if f.arity.accepts args.length then template caseSensitive f args
  else .error (.argumentCount f.name f.arity.text args.length)

def like (caseSensitive : Bool) (tag : String) : List Argument → Except CompileError Value
  | [input, pattern] => likeCall caseSensitive input pattern
  | args => .error (.argumentCount tag (Arity.exactly 2).text args.length)

/-- A call by tag. The tags are `Like`, `NotLike` and the names of the standard functions, in any
letter case. -/
def custom (caseSensitive : Bool) (tag : String) (args : List Argument) :
    Except CompileError Value :=
  let name := Text.lower tag
  if name = "like" then like caseSensitive tag args
  else if name = "notlike" then
    (like caseSensitive tag args).map fun search => .apply "$not" [search]
  else
    match StandardFunction.ofName? name with
    | some f => standard caseSensitive f args
    | none => .error (.unsupportedFunction tag)

end Call

def Function.compile (caseSensitive : Bool) (args : List Argument) :
    Function → Except CompileError Value
  | .standard f => Call.standard caseSensitive f args
  | .custom tag => Call.custom caseSensitive tag args

end RelPipe
