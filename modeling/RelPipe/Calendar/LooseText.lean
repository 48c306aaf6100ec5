import RelPipe.Calendar.Rfc3339
import RelPipe.Text.Blank

/-!
Loosely written dates: besides the strict form with an offset, a date with or without a time of
day, whose numbers may be short and may have white space in front of them. Times without an offset
are in UTC.
-/

namespace RelPipe.Calendar.LooseText

set_option autoImplicit false

def isMinus (c : Char) : Bool := c = '-' || c = '−'

/-- Takes `Z` or `±hh:mm` off the front; the result is in seconds. -/
def offset? : List Char → Option (Int × List Char)
  | [] => none
  | c :: cs => if isMinus c then Rfc3339.offset? ('-' :: cs) else Rfc3339.offset? (c :: cs)

/-- The strict form: a full date, a time that may have a leap second, and an offset. -/
def strict? (cs : List Char) : Option Instant := do
  let (date, cs) ← Rfc3339.date? cs
  match cs with
  | [] => none
  | c :: cs =>
    if c = 'T' || c = 't' || c = ' ' then
      let (hour, cs) ← Scan.number? 2 2 cs
      let cs ← Scan.char? ':' cs
      let (minute, cs) ← Scan.number? 2 2 cs
      let cs ← Scan.char? ':' cs
      let (second, cs) ← Scan.number? 2 2 cs
      let (nanos, cs) ← Scan.fraction? cs
      let (offset, cs) ← offset? cs
      let clock ← Clock.ofParts? hour minute second nanos
      if cs.isEmpty then
        let i := Moment.toInstant ⟨date, clock⟩
        return { i with seconds := i.seconds - offset }
      else
        none
    else
      none

/-- Takes a number of at most two digits off the front, after white space. -/
def short? (cs : List Char) : Option (Nat × List Char) :=
  Scan.number? 1 2 (cs.dropWhile Text.isBlank)

/-- Takes a year off the front, after white space: up to four digits, or any number after a sign.
-/
def year? (cs : List Char) : Option (Int × List Char) :=
  match cs.dropWhile Text.isBlank with
  | '-' :: cs => (Scan.number? 1 cs.length cs).map fun (n, rest) => (-(n : Int), rest)
  | '+' :: cs => (Scan.number? 1 cs.length cs).map fun (n, rest) => ((n : Int), rest)
  | cs => (Scan.number? 1 4 cs).map fun (n, rest) => ((n : Int), rest)

def yearInRange (year : Int) : Bool := -262143 ≤ year && year ≤ 262142

/-- Takes `y-m-d` off the front. -/
def date? (cs : List Char) : Option (Date × List Char) := do
  let (year, cs) ← year? cs
  let cs ← Scan.char? '-' cs
  let (month, cs) ← short? cs
  let cs ← Scan.char? '-' cs
  let (day, cs) ← short? cs
  if yearInRange year then
    let date ← Date.ofParts? year month day
    return (date, cs)
  else
    none

/-- What separates the date from the time: a `T`, or white space, which may be absent. -/
inductive Separator where
  | letter
  | blank

def separator? : Separator → List Char → Option (List Char)
  | .letter, cs => Scan.char? 'T' cs
  | .blank, cs => some (cs.dropWhile Text.isBlank)

def withSeconds? (sep : Separator) (cs : List Char) : Option Instant := do
  let (date, cs) ← date? cs
  let cs ← separator? sep cs
  let (hour, cs) ← short? cs
  let cs ← Scan.char? ':' cs
  let (minute, cs) ← short? cs
  let cs ← Scan.char? ':' cs
  let (second, cs) ← short? cs
  let (nanos, cs) ← Scan.fraction? cs
  let clock ← Clock.ofParts? hour minute second nanos
  if cs.isEmpty then return Moment.toInstant ⟨date, clock⟩ else none

def withMinutes? (sep : Separator) (cs : List Char) : Option Instant := do
  let (date, cs) ← date? cs
  let cs ← separator? sep cs
  let (hour, cs) ← short? cs
  let cs ← Scan.char? ':' cs
  let (minute, cs) ← short? cs
  let clock ← Clock.ofParts? hour minute 0 0
  if cs.isEmpty then return Moment.toInstant ⟨date, clock⟩ else none

def dateOnly? (cs : List Char) : Option Instant := do
  let (date, cs) ← date? cs
  if cs.isEmpty then return Moment.toInstant ⟨date, .midnight⟩ else none

def instant? (s : String) : Option Instant :=
  let cs := Text.trimBlank s
  strict? cs
    <|> withSeconds? .letter cs
    <|> withSeconds? .blank cs
    <|> withMinutes? .letter cs
    <|> withMinutes? .blank cs
    <|> dateOnly? cs

end RelPipe.Calendar.LooseText
