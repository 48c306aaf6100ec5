import RelPipe.Number.Binary32

/-!
Texts of binary numbers. A double is read from a sign, digits with an optional point and an
optional exponent, or one of the names of infinity and NaN in any letter case. It is written with
the fewest digits that read back: plainly in positional notation, and as a literal that shows a
fraction and has an exponent below `10 ^ -4` and from `10 ^ 16` on.
-/

namespace RelPipe.Number

set_option autoImplicit false

def decimal? (cs : List Char) : Option Digits :=
  let whole := cs.takeWhile Char.isDigit
  let rest := cs.dropWhile Char.isDigit
  let (places, rest) :=
    match rest with
    | '.' :: rest => (rest.takeWhile Char.isDigit, rest.dropWhile Char.isDigit)
    | rest => ([], rest)
  let mantissa := whole ++ places
  if mantissa.isEmpty then
    none
  else
    let exponent? : Option Int :=
      match rest with
      | [] => some 0
      | c :: exponent => if c = 'e' || c = 'E' then Text.Numeral.integer? exponent else none
    exponent?.map fun e => ⟨Text.Numeral.value mantissa, e - places.length⟩

/-- Whether a text is a sign or not, and what follows it. -/
def sign : List Char → Bool × List Char
  | '-' :: cs => (true, cs)
  | '+' :: cs => (false, cs)
  | cs => (false, cs)

def Binary64.ofText? (cs : List Char) : Option Binary64 :=
  let (negative, body) := sign cs
  let name := body.map Char.toLower
  if name = "nan".toList then
    some nan
  else if name = "inf".toList || name = "infinity".toList then
    some (infinity negative)
  else
    (decimal? body).map fun d => ofDecimal negative d.digits d.exponent

/-- The layouts of a number: its sign, then its name if it has one, else its digits. -/
def layout (f : BinaryFormat) (negative : Bool) (magnitude : Nat)
    (digits : Digits → List Char) : String :=
  let minus := if negative then ['-'] else []
  String.ofList <|
    if f.infinity < magnitude then "NaN".toList
    else if magnitude = f.infinity then minus ++ "inf".toList
    else if magnitude = 0 then minus ++ digits ⟨0, 0⟩
    else minus ++ digits (Shortest.ofMagnitude f magnitude)

/-- Digits with at least one place after the point, or with an exponent if they lie far from it. -/
def Digits.literal (d : Digits) : List Char :=
  if d.digits ≠ 0 && (d.leading < -4 || 16 ≤ d.leading) then d.scientific
  else if 0 ≤ d.exponent then d.positional ++ ['.', '0']
  else d.positional

namespace Binary64

def text (x : Binary64) : String := layout format x.isNegative x.magnitude Digits.positional

def literal (x : Binary64) : String := layout format x.isNegative x.magnitude Digits.literal

end Binary64

def Binary32.literal (x : Binary32) : String :=
  layout format x.isNegative x.magnitude Digits.literal

end RelPipe.Number
