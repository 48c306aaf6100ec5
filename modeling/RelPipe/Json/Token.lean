import RelPipe.Json.Basic
import RelPipe.Text.Hex

/-!
The tokens of JSON text. The text is read one character at a time; a state remembers the token that
is being read.
-/

namespace RelPipe.Json

set_option autoImplicit false

open Number

inductive Token where
  | openArray
  | closeArray
  | openObject
  | closeObject
  | comma
  | colon
  /-- A string, if its escapes denote characters. -/
  | string (s : Option String)
  | scalar (j : Json)

/-- Whether a text is a numeral: a sign, digits without leading zeros, a fraction, an exponent. -/
def isNumeral (cs : List Char) : Bool :=
  let unsigned := if cs.head? = some '-' then cs.tail else cs
  let whole := unsigned.takeWhile Char.isDigit
  let rest := unsigned.dropWhile Char.isDigit
  let (places, rest) :=
    match rest with
    | '.' :: rest => (some (rest.takeWhile Char.isDigit), rest.dropWhile Char.isDigit)
    | rest => (none, rest)
  let exponent :=
    match rest with
    | [] => true
    | c :: e => (c = 'e' || c = 'E') && (Text.Numeral.integer? e).isSome
  !whole.isEmpty && (whole.length = 1 || whole.head? ≠ some '0') && places ≠ some [] && exponent

/-- The number that a numeral denotes. Integers of up to 64 bits are exact; every other number, and
negative zero, is a double, and has no value if it is too large for one. -/
def number? (cs : List Char) : Option Json :=
  if !isNumeral cs then
    none
  else
    let asFloat : Option Json :=
      (Binary64.ofText? cs).map fun x => if x.isInfinite then .unreadable else .float x
    match Text.Numeral.integer? cs with
    | some n =>
      let negative := cs.head? = some '-'
      if negative ∧ n < 0 ∧ -0x8000000000000000 ≤ n ∨ ¬negative ∧ n < 0x10000000000000000 then
        some (.integer n)
      else asFloat
    | none => asFloat

def word? (cs : List Char) : Option Json :=
  if cs = "null".toList then some .null
  else if cs = "true".toList then some (.bool true)
  else if cs = "false".toList then some (.bool false)
  else none

/-- The characters of a string that have been read, in reverse, unless they are spoilt by half of a
surrogate pair. -/
abbrev Characters := Option (List Char)

def Characters.push (characters : Characters) (c : Char) : Characters := characters.map (c :: ·)

/-- What has been read of the token at hand, with the characters of it in reverse. An escaped high
surrogate waits for its low surrogate. -/
inductive Reading where
  | between
  | word (letters : List Char)
  | number (characters : List Char)
  | string (characters : Characters)
  | escape (characters : Characters)
  | unicode (characters : Characters) (high : Option Nat) (digits : List Char)
  | surrogate (characters : Characters) (high : Nat)
  | surrogateEscape (characters : Characters) (high : Nat)

def isBlank (c : Char) : Bool := c = ' ' || c = '\n' || c = '\t' || c = '\r'

def isNumberCharacter (c : Char) : Bool :=
  c.isDigit || c = '-' || c = '+' || c = '.' || c = 'e' || c = 'E'

def escaped? (c : Char) : Option Char :=
  match c with
  | '"' | '\\' | '/' => some c
  | 'b' => some '\x08'
  | 'f' => some '\x0c'
  | 'n' => some '\n'
  | 'r' => some '\r'
  | 't' => some '\t'
  | _ => none

def finish? : Reading → Option (List Token)
  | .between => some []
  | .word letters => (word? letters.reverse).map fun j => [.scalar j]
  | .number characters => (number? characters.reverse).map fun j => [.scalar j]
  | _ => none

def start? (c : Char) : Option (Reading × List Token) :=
  if isBlank c then some (.between, [])
  else if c = '[' then some (.between, [.openArray])
  else if c = ']' then some (.between, [.closeArray])
  else if c = '\x7b' then some (.between, [.openObject])
  else if c = '\x7d' then some (.between, [.closeObject])
  else if c = ',' then some (.between, [.comma])
  else if c = ':' then some (.between, [.colon])
  else if c = '"' then some (.string (some []), [])
  else if c.isDigit || c = '-' then some (.number [c], [])
  else if c.isLower then some (.word [c], [])
  else none

/-- Ends a token that needs no closing character, and starts the next. -/
def restart? (r : Reading) (c : Char) : Option (Reading × List Token) := do
  let done ← finish? r
  let (next, tokens) ← start? c
  return (next, done ++ tokens)

/-- Ends an escape of four hexadecimal digits. Surrogates only come in pairs. -/
def codeUnit (characters : Characters) (high : Option Nat) (unit : Nat) : Reading :=
  match high with
  | none =>
    if 0xd800 ≤ unit && unit < 0xdc00 then .surrogate characters unit
    else if 0xdc00 ≤ unit && unit < 0xe000 then .string none
    else .string (characters.push (Char.ofNat unit))
  | some high =>
    if 0xdc00 ≤ unit && unit < 0xe000 then
      .string (characters.push (Char.ofNat (0x10000 + (high - 0xd800) * 0x400 + (unit - 0xdc00))))
    else
      .string none

def inString? (characters : Characters) (c : Char) : Option (Reading × List Token) :=
  if c = '"' then
    some (.between, [.string (characters.map fun cs => String.ofList cs.reverse)])
  else if c = '\\' then
    some (.escape characters, [])
  else if c.toNat < 0x20 then
    none
  else
    some (.string (characters.push c), [])

def inEscape? (characters : Characters) (c : Char) : Option (Reading × List Token) :=
  if c = 'u' then some (.unicode characters none [], [])
  else (escaped? c).map fun d => (.string (characters.push d), [])

def step? (r : Reading) (c : Char) : Option (Reading × List Token) :=
  match r with
  | .between => start? c
  | .word letters => if c.isLower then some (.word (c :: letters), []) else restart? r c
  | .number characters =>
    if isNumberCharacter c then some (.number (c :: characters), []) else restart? r c
  | .string characters => inString? characters c
  | .escape characters => inEscape? characters c
  | .unicode characters high digits =>
    if digits.length = 3 then
      (Text.Hex.natural? (c :: digits).reverse).map fun unit => (codeUnit characters high unit, [])
    else
      some (.unicode characters high (c :: digits), [])
  | .surrogate characters high =>
    if c = '\\' then some (.surrogateEscape characters high, []) else inString? none c
  | .surrogateEscape characters high =>
    if c = 'u' then some (.unicode characters (some high) [], []) else inEscape? none c

/-- The tokens of the text that follows what has been read, after the tokens `done`, which are in
reverse. -/
def tokensFrom? (r : Reading) (done : List Token) : List Char → Option (List Token)
  | [] => (finish? r).map (done.reverse ++ ·)
  | c :: cs =>
    match step? r c with
    | some (next, tokens) => tokensFrom? next (tokens.reverse ++ done) cs
    | none => none

def tokens? (cs : List Char) : Option (List Token) := tokensFrom? .between [] cs

end RelPipe.Json
