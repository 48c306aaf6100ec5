import RelPipe.Compile.Projection
import RelPipe.Document.Extended
import RelPipe.Document.Printer
import RelPipe.Json.Reader
import RelPipe.Rows.Printer
import RelPipe.Statement.Decode

/-!
The report on a statement: its plan and, if result documents are given, their rows.
-/

namespace RelPipe.Report

set_option autoImplicit false

inductive Failure where
  /-- A text is not of the form that is expected. -/
  | malformed
  | compile (e : CompileError)

/-- What a failure is announced with. -/
def Failure.text : Failure → String
  | malformed => "Error: CliError(\"malformed JSON\")"
  | compile e => "Error: CliError(" ++ Text.Quoted.string e.message ++ ")"

structure Outcome where
  lines : List String
  failure : Option Failure

/-- How deeply the arrays and objects that are looked at may be nested. -/
def maxNesting : Nat := 127

def statement? (text : String) : Option Statement :=
  (Json.ofTextWithin? maxNesting text).bind Statement.ofJson?

def documents? (text : String) : Option (List Document) :=
  (Json.ofTextWithin? maxNesting text).bind (Json.list? Extended.document?)

def indented (line : String) : String := "    " ++ line

def planLines (p : Plan) : List String :=
  ["collection: " ++ p.collection, "pipeline:"] ++ p.pipeline.map fun d => indented d.text

def rowLines (s : Statement) (documents : List Document) : List String :=
  ["rows:", indented (Text.join " | " (s.columns.map ColumnDescriptor.text))]
    ++ (s.materialize documents).map fun row => indented (Row.text row)

/-- The report on the text of a statement and, if there are any, the text of result documents. -/
def run (caseSensitive : Bool) (statement : String) (results : Option String) : Outcome :=
  match statement? statement with
  | none => ⟨[], some .malformed⟩
  | some s =>
    match s.compile caseSensitive with
    | .error e => ⟨[], some (.compile e)⟩
    | .ok (p, _) =>
      match results with
      | none => ⟨planLines p, none⟩
      | some text =>
        match documents? text with
        | none => ⟨planLines p, some .malformed⟩
        | some ds => ⟨planLines p ++ rowLines s ds, none⟩

def Outcome.output (o : Outcome) : String := String.join (o.lines.map (· ++ "\n"))

end RelPipe.Report
