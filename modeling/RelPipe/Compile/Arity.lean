import RelPipe.Statement.Function
import RelPipe.Text.Numeral

/-!
How many arguments a function takes.
-/

namespace RelPipe

set_option autoImplicit false

inductive Arity where
  | exactly (count : Nat)
  | range (least most : Nat)
  | atLeast (count : Nat)
  /-- Pairs of a condition and a value, then a value for all other cases. -/
  | odd (least : Nat)
deriving DecidableEq

namespace Arity

def accepts : Arity → Nat → Bool
  | exactly n, count => count = n
  | range least most, count => least ≤ count && count ≤ most
  | atLeast n, count => n ≤ count
  | odd n, count => n ≤ count && count % 2 = 1

def text : Arity → String
  | exactly n => Text.Numeral.ofNat n
  | range least most => Text.Numeral.ofNat least ++ " to " ++ Text.Numeral.ofNat most
  | atLeast n => "at least " ++ Text.Numeral.ofNat n
  | odd n => "an odd number of, at least " ++ Text.Numeral.ofNat n ++ ","

end Arity

def StandardFunction.arity : StandardFunction → Arity
  | concat => .atLeast 1
  | lower | upper | trim | isNullOrEmpty | len | toStr | reverse => .exactly 1
  | substring | replace | remove | charIndex => .range 2 3
  | insert => .exactly 3
  | abs | sign | floor | ceiling | sqr | cos | sin | tan | atn | acos | asin | cosh | sinh | tanh
  | exp | log10 => .exactly 1
  | round | atn2 | log => .range 1 2
  | power | bigMul => .exactly 2
  | rnd => .range 0 1
  | getYear | getMonth | getDay | getHour | getMinute | getSecond | getMilliSecond | getDayOfWeek
  | getDayOfYear => .exactly 1
  | iif => .odd 3
  | isNull => .range 1 2
  | contains | startsWith | endsWith => .exactly 2
  | toInt | toLong | toDouble | toFloat | toDecimal => .exactly 1

end RelPipe
