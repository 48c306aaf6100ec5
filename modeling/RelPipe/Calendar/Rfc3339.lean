import RelPipe.Calendar.Moment
import RelPipe.Calendar.Scan

/-!
Date texts of the form `2024-03-01T08:30:00.5Z` with an optional offset from UTC. Instants are read
to the millisecond, toward 1970, and written in UTC with as many places as needed.
-/

namespace RelPipe.Calendar.Rfc3339

set_option autoImplicit false

/-- Takes `Z` or `±hh:mm` off the front; the result is in seconds. -/
def offset? : List Char → Option (Int × List Char)
  | [] => none
  | c :: cs =>
    if c = 'Z' || c = 'z' then
      some (0, cs)
    else if c = '+' || c = '-' then do
      let (hours, cs) ← Scan.number? 2 2 cs
      let cs ← Scan.char? ':' cs
      let (minutes, cs) ← Scan.number? 2 2 cs
      if 24 ≤ hours || 60 ≤ minutes then none
      else
        let seconds : Int := 3600 * hours + 60 * minutes
        some (if c = '-' then -seconds else seconds, cs)
    else
      none

/-- Takes `yyyy-mm-dd` off the front. -/
def date? (cs : List Char) : Option (Date × List Char) := do
  let (year, cs) ← Scan.number? 4 4 cs
  let cs ← Scan.char? '-' cs
  let (month, cs) ← Scan.number? 2 2 cs
  let cs ← Scan.char? '-' cs
  let (day, cs) ← Scan.number? 2 2 cs
  let date ← Date.ofParts? year month day
  return (date, cs)

/-- Takes `hh:mm:ss`, an optional fraction and the offset off the front. -/
def clock? (cs : List Char) : Option (Clock × Int × List Char) := do
  let (hour, cs) ← Scan.number? 2 2 cs
  let cs ← Scan.char? ':' cs
  let (minute, cs) ← Scan.number? 2 2 cs
  let cs ← Scan.char? ':' cs
  let (second, cs) ← Scan.number? 2 2 cs
  let (nanos, cs) ← Scan.fraction? cs
  let clock ← Clock.ofParts? hour minute second nanos
  let (offset, cs) ← offset? cs
  return (clock, offset, cs)

/-- A leap second stands for the last nanosecond before it, and is only read at the end of a month.
-/
def settle? (i : Instant) : Option Instant :=
  if i.nanos < 1000000000 then
    some i
  else
    let m := Moment.ofInstant i
    if m.clock.seconds = 86399 && m.date.day = daysInMonth m.date.year m.date.month then
      some ⟨i.seconds, 999999999⟩
    else
      none

/-- The milliseconds since the start of 1970 that a text denotes. Any one byte may stand between
the date and the time. -/
def millis? (cs : List Char) : Option Int := do
  let (date, cs) ← date? cs
  match cs with
  | [] => none
  | c :: cs =>
    if 0x80 ≤ c.toNat then none
    else
      let (clock, offset, rest) ← clock? cs
      if !rest.isEmpty then none
      else
        let local' := Moment.toInstant ⟨date, clock⟩
        let i ← settle? { local' with seconds := local'.seconds - offset }
        return i.toNanos.tdiv (1000000)

def places (nanos : Nat) : List Char :=
  ((Text.Numeral.padded 9 nanos).reverse.dropWhile (· == '0')).reverse

/-- Writes milliseconds since the start of 1970. Only years from 0 to 9999 have such a text. -/
def ofMillis? (ms : Int) : Option String :=
  let m := Moment.ofInstant (.ofMillis ms)
  if m.date.year < 0 || 9999 < m.date.year then none
  else
    let fraction := if m.clock.nanos = 0 then [] else '.' :: places m.clock.nanos
    some <| String.ofList <|
      Text.Numeral.padded 4 m.date.year.toNat ++ '-' :: two m.date.month ++ '-' :: two m.date.day
        ++ 'T' :: two m.clock.hour ++ ':' :: two m.clock.minute ++ ':' :: two m.clock.second
        ++ fraction ++ ['Z']

example : ofMillis? 1709281800000 = some "2024-03-01T08:30:00Z" := by decide +kernel

example : millis? "2024-03-01t09:30:00.5004+01:00".toList = some 1709281800500 := by decide +kernel

end RelPipe.Calendar.Rfc3339
