import RelPipe.Text.Case

/-!
The scalar functions of statements: the standard ones, which are known by name in any letter case,
and calls by a tag of the caller's own.
-/

namespace RelPipe

set_option autoImplicit false

inductive StandardFunction where
  | concat | lower | upper | trim | isNullOrEmpty | len | substring | toStr | replace | reverse
  | insert | remove | charIndex
  | abs | sign | round | floor | ceiling | sqr | cos | sin | tan | atn | atn2 | acos | asin | cosh
  | sinh | tanh | exp | log | log10 | power | rnd | bigMul
  | getYear | getMonth | getDay | getHour | getMinute | getSecond | getMilliSecond | getDayOfWeek
  | getDayOfYear
  | iif | isNull
  | contains | startsWith | endsWith
  | toInt | toLong | toDouble | toFloat | toDecimal
deriving DecidableEq

namespace StandardFunction

def name : StandardFunction → String
  | concat => "Concat"
  | lower => "Lower"
  | upper => "Upper"
  | trim => "Trim"
  | isNullOrEmpty => "IsNullOrEmpty"
  | len => "Len"
  | substring => "Substring"
  | toStr => "ToStr"
  | replace => "Replace"
  | reverse => "Reverse"
  | insert => "Insert"
  | remove => "Remove"
  | charIndex => "CharIndex"
  | abs => "Abs"
  | sign => "Sign"
  | round => "Round"
  | floor => "Floor"
  | ceiling => "Ceiling"
  | sqr => "Sqr"
  | cos => "Cos"
  | sin => "Sin"
  | tan => "Tan"
  | atn => "Atn"
  | atn2 => "Atn2"
  | acos => "Acos"
  | asin => "Asin"
  | cosh => "Cosh"
  | sinh => "Sinh"
  | tanh => "Tanh"
  | exp => "Exp"
  | log => "Log"
  | log10 => "Log10"
  | power => "Power"
  | rnd => "Rnd"
  | bigMul => "BigMul"
  | getYear => "GetYear"
  | getMonth => "GetMonth"
  | getDay => "GetDay"
  | getHour => "GetHour"
  | getMinute => "GetMinute"
  | getSecond => "GetSecond"
  | getMilliSecond => "GetMilliSecond"
  | getDayOfWeek => "GetDayOfWeek"
  | getDayOfYear => "GetDayOfYear"
  | iif => "Iif"
  | isNull => "IsNull"
  | contains => "Contains"
  | startsWith => "StartsWith"
  | endsWith => "EndsWith"
  | toInt => "ToInt"
  | toLong => "ToLong"
  | toDouble => "ToDouble"
  | toFloat => "ToFloat"
  | toDecimal => "ToDecimal"

def all : List StandardFunction :=
  [concat, lower, upper, trim, isNullOrEmpty, len, substring, toStr, replace, reverse, insert,
   remove, charIndex, abs, sign, round, floor, ceiling, sqr, cos, sin, tan, atn, atn2, acos, asin,
   cosh, sinh, tanh, exp, log, log10, power, rnd, bigMul, getYear, getMonth, getDay, getHour,
   getMinute, getSecond, getMilliSecond, getDayOfWeek, getDayOfYear, iif, isNull, contains,
   startsWith, endsWith, toInt, toLong, toDouble, toFloat, toDecimal]

theorem mem_all (f : StandardFunction) : f ∈ all := by cases f <;> decide

def ofExactName? (s : String) : Option StandardFunction := all.find? fun f => f.name == s

def ofName? (s : String) : Option StandardFunction :=
  all.find? fun f => Text.lower f.name == Text.lower s

end StandardFunction

inductive Function where
  | standard (f : StandardFunction)
  | custom (tag : String)
deriving DecidableEq

def Function.name : Function → String
  | .standard f => f.name
  | .custom tag => "Custom(" ++ tag ++ ")"

end RelPipe
