import RelPipe.Text.Hex
import RelPipe.Text.Visible

/-!
Quoted text: a text between quotes in which the quote, the backslash and every character without a
glyph of its own are written as escapes.
-/

namespace RelPipe.Text.Quoted

set_option autoImplicit false

def encode (quote c : Char) : List Char :=
  if c = Char.ofNat 0 then ['\\', '0']
  else if c = '\t' then ['\\', 't']
  else if c = '\r' then ['\\', 'r']
  else if c = '\n' then ['\\', 'n']
  else if c = '\\' || c = quote then ['\\', c]
  else if isVisible c then [c]
  else ['\\', 'u', '\x7b'] ++ Hex.ofNat c.toNat ++ ['\x7d']

def string (s : String) : String := String.ofList ('"' :: s.toList.flatMap (encode '"') ++ ['"'])

def char (c : Char) : String := String.ofList ('\'' :: encode '\'' c ++ ['\''])

example : string "a\"b\\\n" = "\"a\\\"b\\\\\\n\"" := by decide +kernel

end RelPipe.Text.Quoted
