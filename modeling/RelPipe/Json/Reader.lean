import RelPipe.Json.Token

/-!
Reading JSON text. The tokens are taken one by one; the arrays and objects that are still open are
held on a stack.
-/

namespace RelPipe.Json

set_option autoImplicit false

/-- The members of an object in reverse. A name is missing if it denotes no string. -/
abbrev Members := List (Option String × Json)

def ofMembers (members : Members) : Json :=
  match members.reverse.mapM fun m => m.1.map (·, m.2) with
  | some members => .object members
  | none => .unreadable

/-- An array, or an object that is waiting for the value of its member `name`; the entries read so
far are in reverse. -/
inductive Frame where
  | array (items : List Json)
  | object (members : Members) (name : Option String)

/-- What may come next: a value; a value or the end of an array that is still empty; the name of a
member; a name or the end of an object that is still empty; a colon; or, after a value, a comma or
an end. -/
inductive Expectation where
  | value
  | valueOrEnd
  | name (members : Members)
  | nameOrEnd
  | colon (members : Members) (name : Option String)
  | next (value : Json)

/-- The state of reading: how deeply arrays and objects may be nested, how many are open, those that
wait for a value, and what may come next. -/
structure Parsing where
  limit : Nat
  depth : Nat
  stack : List Frame
  expectation : Expectation

namespace Parsing

def start (limit : Nat) : Parsing := ⟨limit, 0, [], .value⟩

def enter (p : Parsing) (stack : List Frame) (expectation : Expectation) : Parsing :=
  { p with depth := p.depth + 1, stack, expectation }

/-- Closes an array or an object, which becomes a value unless it is nested too deeply. -/
def close (p : Parsing) (stack : List Frame) (value : Json) : Parsing :=
  let value := if p.depth ≤ p.limit then value else .unreadable
  { p with depth := p.depth - 1, stack, expectation := .next value }

def value? (p : Parsing) : Token → Option Parsing
  | .scalar j => some { p with expectation := .next j }
  | .string s => some { p with expectation := .next (s.elim .unreadable .string) }
  | .openArray => some (p.enter (.array [] :: p.stack) .valueOrEnd)
  | .openObject => some (p.enter p.stack .nameOrEnd)
  | _ => none

def afterValue? (p : Parsing) (j : Json) : Token → Option Parsing
  | .comma =>
    match p.stack with
    | .array items :: rest =>
      some { p with stack := .array (j :: items) :: rest, expectation := .value }
    | .object members name :: rest =>
      some { p with stack := rest, expectation := .name ((name, j) :: members) }
    | [] => none
  | .closeArray =>
    match p.stack with
    | .array items :: rest => some (p.close rest (.array (j :: items).reverse))
    | _ => none
  | .closeObject =>
    match p.stack with
    | .object members name :: rest => some (p.close rest (ofMembers ((name, j) :: members)))
    | _ => none
  | _ => none

def step? (p : Parsing) (t : Token) : Option Parsing :=
  match p.expectation, t with
  | .valueOrEnd, .closeArray => some (p.close p.stack.tail (.array []))
  | .value, t | .valueOrEnd, t => p.value? t
  | .nameOrEnd, .closeObject => some (p.close p.stack (.object []))
  | .nameOrEnd, .string name => some { p with expectation := .colon [] name }
  | .name members, .string name => some { p with expectation := .colon members name }
  | .colon members name, .colon =>
    some { p with stack := .object members name :: p.stack, expectation := .value }
  | .next j, t => p.afterValue? j t
  | _, _ => none

/-- Takes all tokens. At the end one value must stand alone. -/
def run? (p : Parsing) : List Token → Option Json
  | [] =>
    match p.stack, p.expectation with
    | [], .next j => some j
    | _, _ => none
  | t :: ts =>
    match p.step? t with
    | some p => p.run? ts
    | none => none

end Parsing

/-- The value that a well-formed text denotes, in which arrays and objects that nest deeper than
`limit` are unreadable. -/
def ofTextWithin? (limit : Nat) (s : String) : Option Json :=
  (tokens? s.toList).bind (Parsing.start limit).run?

/-- The value that a text denotes, if it is one JSON value and every part of it is readable. No text
nests deeper than it is long. -/
def ofText? (s : String) : Option Json :=
  (ofTextWithin? s.length s).bind fun j => if j.isReadable then some j else none

end RelPipe.Json
