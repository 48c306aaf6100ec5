import RelPipe.Json.Basic
import RelPipe.Text.Basic
import RelPipe.Text.Hex

/-!
Writing JSON text, without white space. What has no value is written as null.
-/

namespace RelPipe.Json

set_option autoImplicit false

def escapeLetter? (c : Char) : Option Char :=
  match c with
  | '"' | '\\' => some c
  | '\x08' => some 'b'
  | '\x0c' => some 'f'
  | '\n' => some 'n'
  | '\r' => some 'r'
  | '\t' => some 't'
  | _ => none

def encodeChar (c : Char) : List Char :=
  match escapeLetter? c with
  | some letter => ['\\', letter]
  | none => if c.toNat < 0x20 then '\\' :: 'u' :: Text.Hex.padded 4 c.toNat else [c]

def quote (s : String) : String := String.ofList ('"' :: s.toList.flatMap encodeChar ++ ['"'])

mutual

def text : Json → String
  | .null | .unreadable => "null"
  | .bool b => if b then "true" else "false"
  | .integer n => Text.Numeral.ofInt n
  | .float x => x.literal
  | .string s => quote s
  | .array items => "[" ++ Text.join "," (itemTexts items) ++ "]"
  | .object members => "\x7b" ++ Text.join "," (memberTexts members) ++ "\x7d"
termination_by structural j => j

def itemTexts : List Json → List String
  | [] => []
  | j :: rest => text j :: itemTexts rest
termination_by structural js => js

def memberTexts : List (String × Json) → List String
  | [] => []
  | (name, j) :: rest => (quote name ++ ":" ++ text j) :: memberTexts rest
termination_by structural members => members

end

end RelPipe.Json
