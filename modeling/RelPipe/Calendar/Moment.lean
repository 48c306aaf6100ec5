import RelPipe.Calendar.Date
import RelPipe.Text.Numeral

/-!
Points in time. An `Instant` counts seconds and nanoseconds since the start of 1970, where more
than `10 ^ 9` nanoseconds stand for a leap second; a `Moment` is the same point as a date and a
time of day.
-/

namespace RelPipe.Calendar

set_option autoImplicit false

/-- A time of day. The nanoseconds of a leap second start at `10 ^ 9`. -/
structure Clock where
  seconds : Nat
  nanos : Nat
deriving DecidableEq

namespace Clock

def midnight : Clock := ⟨0, 0⟩

def hour (c : Clock) : Nat := c.seconds / 3600

def minute (c : Clock) : Nat := c.seconds / 60 % 60

def second (c : Clock) : Nat := c.seconds % 60

/-- The time with these parts. A sixtieth second is the leap second after the fifty-ninth. -/
def ofParts? (hour minute second nanos : Nat) : Option Clock :=
  if 24 ≤ hour || 60 ≤ minute || 61 ≤ second || 1000000000 ≤ nanos then none
  else if second = 60 then some ⟨3600 * hour + 60 * minute + 59, nanos + 1000000000⟩
  else some ⟨3600 * hour + 60 * minute + second, nanos⟩

end Clock

structure Instant where
  seconds : Int
  nanos : Nat
deriving DecidableEq

structure Moment where
  date : Date
  clock : Clock
deriving DecidableEq

namespace Moment

def toInstant (m : Moment) : Instant := ⟨86400 * m.date.toDays + m.clock.seconds, m.clock.nanos⟩

def ofInstant (i : Instant) : Moment :=
  ⟨Date.ofDays (i.seconds.fdiv 86400), ⟨(i.seconds.fmod 86400).toNat, i.nanos⟩⟩

end Moment

namespace Instant

def ofMillis (ms : Int) : Instant := ⟨ms.fdiv 1000, (ms.fmod 1000).toNat * 1000000⟩

def toNanos (i : Instant) : Int := 1000000000 * i.seconds + i.nanos

end Instant

def two (n : Nat) : List Char := Text.Numeral.padded 2 n

end RelPipe.Calendar
