import RelPipe.Report

/-!
The command line: reports on the statement in a file.
-/

namespace RelPipe.CommandLine

set_option autoImplicit false

structure Request where
  statement : Option String
  results : Option String
  caseSensitive : Bool

def usage : String := "Usage: relpipe [--case-sensitive] [--results FILE] STATEMENT"

def request? (r : Request) : List String → Option Request
  | [] => some r
  | "-c" :: rest | "--case-sensitive" :: rest => request? { r with caseSensitive := true } rest
  | "-r" :: path :: rest | "--results" :: path :: rest =>
    request? { r with results := some path } rest
  | argument :: rest =>
    match Text.afterStart? "--results=".toList argument.toList with
    | some path => request? { r with results := some (String.ofList path) } rest
    | none =>
      if argument.toList.head? == some '-' || r.statement.isSome then none
      else request? { r with statement := some argument } rest

end RelPipe.CommandLine

open RelPipe in
def main (arguments : List String) : IO UInt32 := do
  match CommandLine.request? ⟨none, none, false⟩ arguments with
  | some ⟨some path, results, caseSensitive⟩ =>
    let statement ← IO.FS.readFile path
    let results ←
      match results with
      | some path => some <$> IO.FS.readFile path
      | none => pure none
    let outcome := Report.run caseSensitive statement results
    IO.print outcome.output
    match outcome.failure with
    | none => return 0
    | some failure =>
      IO.eprintln failure.text
      return 1
  | _ =>
    IO.eprintln CommandLine.usage
    return 2
