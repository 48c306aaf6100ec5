import RelPipe.Text.Blank
import RelPipe.Text.Numeral

/-!
Time spans in nanoseconds. They are counted in ticks of 100 nanoseconds, or written as
`[-][d.]hh:mm[:ss[.fffffff]]` or as a bare number of days.
-/

namespace RelPipe.TimeSpan

set_option autoImplicit false

open Text

def microsecond : Int := 1000

/-- Ticks are counted in whole microseconds and the ticks beyond them, both rounded toward zero. -/
def ofTicks (ticks : Int64) : Int :=
  (ticks / 10).toInt * microsecond + (ticks % 10 * 100).toInt

def second : Int := 1000000 * microsecond

def minute : Int := 60 * second

def hour : Int := 60 * minute

def day : Int := 24 * hour

def maxDays : Int := 10675199

def days? (cs : List Char) : Option Int :=
  (Numeral.int64? cs).bind fun n =>
    if 0 ≤ n.toInt ∧ n.toInt ≤ maxDays then some (n.toInt * day) else none

def below? (limit : Int) (cs : List Char) : Option Int :=
  (Numeral.int64? cs).bind fun n =>
    if 0 ≤ n.toInt ∧ n.toInt < limit then some n.toInt else none

/-- One to seven digits after the point of the seconds, which are ticks with zeros behind them. -/
def fraction? (cs : List Char) : Option Int :=
  if cs.isEmpty || 7 < cs.length || !cs.all Char.isDigit then none
  else (Numeral.int64? (cs ++ List.replicate (7 - cs.length) '0')).map ofTicks

def seconds? (cs : List Char) : Option Int :=
  match cutAt? '.' cs with
  | some (whole, fraction) => do
    let s ← below? 60 whole
    let f ← fraction? fraction
    return s * second + f
  | none => (below? 60 cs).map (· * second)

def hours? (cs : List Char) : Option Int :=
  match cutAt? '.' cs with
  | some (days, hours) => do
    let d ← days? days
    let h ← below? 24 hours
    return d + h * hour
  | none => (below? 24 cs).map (· * hour)

def minutes? (cs : List Char) : Option Int :=
  match cutAt? ':' cs with
  | some (minutes, seconds) => do
    let m ← below? 60 minutes
    let s ← seconds? seconds
    return m * minute + s
  | none => (below? 60 cs).map (· * minute)

def unsigned? (cs : List Char) : Option Int :=
  match cutAt? ':' cs with
  | some (hours, rest) => do
    let h ← hours? hours
    let m ← minutes? rest
    return h + m
  | none => days? cs

def ofText? (s : String) : Option Int :=
  match trimBlank s with
  | '-' :: cs => (unsigned? cs).map (- ·)
  | cs => unsigned? cs

end RelPipe.TimeSpan
