import RelPipe.Calendar.Rfc3339

/-!
The stamps that show instants to people: `2024-01-02 3:04:05.0 +00:00:00` for the instants of
documents, and the forms of dates, times and instants in rows.
-/

namespace RelPipe.Calendar

set_option autoImplicit false

/-- A year with at least four digits, and with a sign when it is negative or has more. -/
def signedYear (year : Int) : List Char :=
  if 0 ≤ year ∧ year ≤ 9999 then
    Text.Numeral.padded 4 year.toNat
  else
    (if year < 0 then '-' else '+') :: Text.Numeral.padded 4 year.natAbs

def Date.text (d : Date) : String :=
  String.ofList (signedYear d.year ++ '-' :: two d.month ++ '-' :: two d.day)

def stamp? (ms : Int) : Option String :=
  let m := Moment.ofInstant (.ofMillis ms)
  if 999999 < m.date.year.natAbs then none
  else
    let fraction := if m.clock.nanos = 0 then ['0'] else Rfc3339.places m.clock.nanos
    some <| m.date.text ++ String.ofList (
      ' ' :: Text.Numeral.digits m.clock.hour ++ ':' :: two m.clock.minute
        ++ ':' :: two m.clock.second ++ '.' :: fraction ++ " +00:00:00".toList)

/-- The stamp of an instant, or its number of milliseconds if it has none. -/
def stamp (ms : Int) : String := (stamp? ms).getD (Text.Numeral.ofInt ms)

/-- A fraction of a second in three, six or nine places, if there is one. -/
def groupedFraction (nanos : Nat) : List Char :=
  if nanos = 0 then []
  else if nanos % 1000000 = 0 then '.' :: Text.Numeral.padded 3 (nanos / 1000000)
  else if nanos % 1000 = 0 then '.' :: Text.Numeral.padded 6 (nanos / 1000)
  else '.' :: Text.Numeral.padded 9 nanos

def Clock.text (c : Clock) : String :=
  let leap := 1000000000 ≤ c.nanos
  let second := if leap then c.second + 1 else c.second
  let nanos := if leap then c.nanos - 1000000000 else c.nanos
  String.ofList (two c.hour ++ ':' :: two c.minute ++ ':' :: two second ++ groupedFraction nanos)

def Instant.text (i : Instant) : String :=
  let m := Moment.ofInstant i
  m.date.text ++ "T" ++ m.clock.text ++ "+00:00"

example : stamp 1704164645000 = "2024-01-02 3:04:05.0 +00:00:00" := by decide +kernel

end RelPipe.Calendar
