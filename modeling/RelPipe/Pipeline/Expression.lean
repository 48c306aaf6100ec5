import RelPipe.Pipeline.Operator

/-!
The value of an expression on a document. Strings that begin with a dollar sign are paths into the
document, those with two are variables; a document with one field whose name begins with a dollar
sign applies an operator. Reading what is not there gives `undefined`.
-/

namespace RelPipe.Pipeline

set_option autoImplicit false

abbrev Variables := Fields Value

structure Environment where
  document : Document
  vars : Variables

namespace Environment

/-- The value of a variable, given its name without dollar signs. -/
def variableValue? (env : Environment) (name : String) : Option Value :=
  if name = "ROOT" || name = "CURRENT" then some (.document env.document)
  else env.vars.get? name

def variableAt (env : Environment) (reference : List Char) : Value :=
  match Text.cutAt? '.' reference with
  | some (name, path) =>
    match env.variableValue? (String.ofList name) with
    | some (.document d) => (Document.path? d (String.ofList path)).getD .undefined
    | _ => .undefined
  | none => (env.variableValue? (String.ofList reference)).getD .undefined

/-- The value of a string: a path, a variable or the string itself. -/
def reference (env : Environment) (s : String) : Value :=
  match s.toList with
  | '$' :: '$' :: reference => env.variableAt reference
  | '$' :: path => (env.document.path? (String.ofList path)).getD .undefined
  | _ => .string s

end Environment

def blame {α : Type} (operator : String) : Except Fault α → Result α
  | .ok a => .ok a
  | .error fault => .error (.invalidArgument operator fault)

/-- Trims a text. What is no text becomes null. -/
def trimmed (side : TrimSide) (input : Value) (characters : Option Value) : Value :=
  match input with
  | .string s =>
    let drop := (characters.map fun v => v.plainText.toList).getD TrimSide.defaultCharacters
    .string (String.ofList (side.apply drop.contains s.toList))
  | _ => .null

/-- Searches a text for a pattern. Nothing occurs in null. -/
def search (input regex options : Result Value) : Result Value := do
  match ← input with
  | .string text =>
    match ← regex with
    | .string pattern => do
      let letters := (← options).plainText
      (occurs (regexOptions letters) pattern text).map .boolean
    | _ => .error (.invalidArgument "$regexMatch" .regexNotText)
  | .null | .undefined => .ok (.boolean false)
  | _ => .error (.invalidArgument "$regexMatch" .inputNotText)

mutual

def evaluate (env : Environment) : Value → Result Value
  | .string s => .ok (env.reference s)
  | .array items => do
    let vs ← evaluateEach env items
    .ok (.array (vs.map Value.presentOrNull))
  | .document [(name, argument)] =>
    if Text.dollar name then
      match Operator.ofName? name with
      | none => .error (.unsupportedOperator name)
      | some .literal => .ok argument
      | some .all =>
        match argument with
        | .array items => (evaluateAll env items).map .boolean
        | argument => do
          let v ← evaluate env argument
          .ok (.boolean v.isTruthy)
      | some .any =>
        match argument with
        | .array items => (evaluateAny env items).map .boolean
        | argument => do
          let v ← evaluate env argument
          .ok (.boolean v.isTruthy)
      | some .choice =>
        match argument with
        | .array [condition, first, second] => do
          let v ← evaluate env condition
          if v.isTruthy then evaluate env first else evaluate env second
        | .document fields =>
          if Fields.contains fields "if" && Fields.contains fields "then"
              && Fields.contains fields "else" then do
            let v ← evaluateField env "if" fields
            if v.isTruthy then evaluateField env "then" fields
            else evaluateField env "else" fields
          else .error (.invalidArgument name .missingBranch)
        | _ => .error (.invalidArgument name .branchCount)
      | some (.trim side) =>
        match argument with
        | .document fields =>
          if Fields.contains fields "input" then do
            let input ← evaluateField env "input" fields
            match input with
            | .string _ =>
              if Fields.contains fields "chars" then do
                let characters ← evaluateField env "chars" fields
                .ok (trimmed side input (some characters))
              else .ok (trimmed side input none)
            | _ => .ok .null
          else .error (.invalidArgument name .missingInput)
        | _ => .error (.invalidArgument name .notDocument)
      | some .search =>
        match argument with
        | .document fields =>
          search (evaluateField env "input" fields) (evaluateField env "regex" fields)
            (evaluateField env "options" fields)
        | _ => .error (.invalidArgument name .notDocument)
      | some (.onValues op) =>
        match argument with
        | .array items => do
          let vs ← evaluateEach env items
          blame name (op.apply vs)
        | argument => do
          let v ← evaluate env argument
          blame name (op.apply [v])
    else do
      let v ← evaluate env argument
      .ok (.document (if v.isMissing then [] else [(name, v)]))
  | .document fields => (evaluateFields env fields).map .document
  | v => .ok v
termination_by structural v => v

def evaluateEach (env : Environment) : List Value → Result (List Value)
  | [] => .ok []
  | e :: rest => do
    let v ← evaluate env e
    let vs ← evaluateEach env rest
    .ok (v :: vs)
termination_by structural es => es

/-- Whether all expressions are truthy. The first that is not ends the evaluation. -/
def evaluateAll (env : Environment) : List Value → Result Bool
  | [] => .ok true
  | e :: rest => do
    let v ← evaluate env e
    if v.isTruthy then evaluateAll env rest else .ok false
termination_by structural es => es

/-- Whether some expression is truthy. The first that is ends the evaluation. -/
def evaluateAny (env : Environment) : List Value → Result Bool
  | [] => .ok false
  | e :: rest => do
    let v ← evaluate env e
    if v.isTruthy then .ok true else evaluateAny env rest
termination_by structural es => es

/-- The fields with the values of their expressions. Those that come out missing are left out. -/
def evaluateFields (env : Environment) : List (String × Value) → Result Document
  | [] => .ok []
  | (name, e) :: rest => do
    let v ← evaluate env e
    let fields ← evaluateFields env rest
    .ok (if v.isMissing then fields else (name, v) :: fields)
termination_by structural fields => fields

def evaluateField (env : Environment) (name : String) : List (String × Value) → Result Value
  | [] => .ok .null
  | (key, e) :: rest => if key = name then evaluate env e else evaluateField env name rest
termination_by structural fields => fields

end

end RelPipe.Pipeline
