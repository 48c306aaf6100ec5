import RelPipe.Text.Numeral

/-!
Scanning fixed pieces off the front of a text.
-/

namespace RelPipe.Calendar.Scan

set_option autoImplicit false

def char? (c : Char) : List Char → Option (List Char)
  | [] => none
  | d :: cs => if d = c then some cs else none

def number? (min max : Nat) (cs : List Char) : Option (Nat × List Char) :=
  let digits := (cs.take max).takeWhile Char.isDigit
  if digits.length < min then none
  else some (Text.Numeral.value digits, cs.drop digits.length)

/-- Takes a fraction of a second off the front, after its point: at least one digit, of which the
first nine count. The result is in nanoseconds. -/
def nanos? (cs : List Char) : Option (Nat × List Char) :=
  let digits := cs.takeWhile Char.isDigit
  if digits.isEmpty then none
  else
    let counted := digits.take 9
    some (Text.Numeral.value counted * Nat.pow 10 (9 - counted.length), cs.dropWhile Char.isDigit)

def fraction? : List Char → Option (Nat × List Char)
  | '.' :: cs => nanos? cs
  | cs => some (0, cs)

end RelPipe.Calendar.Scan
