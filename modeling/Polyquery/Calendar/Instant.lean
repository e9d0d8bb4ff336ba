import Polyquery.Calendar.Date
import Polyquery.Calendar.Clock

/-! Instants in universal time and their texts. The strict form has exactly
three fraction digits and the letter `Z`; the general form allows any number of
fraction digits and an offset from universal time. -/
namespace Polyquery.Calendar
open Text

/-- An instant, as day and time of day in universal time. -/
structure Instant where
  date : Date
  clock : Clock
  deriving DecidableEq

/-- The number that digits spell, refused if one of them is no ASCII digit. -/
def number? (digits : List Char) : Option Nat :=
  if digits.all isDigit then some (digitsValue digits) else none

namespace Instant

def ofParts? (year month day hour minute second nano : Nat) : Option Instant := do
  some ⟨← Date.ofParts? year month day, ← Clock.ofParts? hour minute second nano⟩

/-- The strict text: three fraction digits and `Z`. -/
def iso (t : Instant) : String :=
  String.ofList (t.date.print ++ 'T' :: t.clock.printSeconds ++ t.clock.millis ++ ['Z'])

/-- The text with as many fraction digits as needed. -/
def exact (t : Instant) : String :=
  String.ofList (t.date.print ++ 'T' :: t.clock.printSeconds ++ t.clock.fraction ++ ['Z'])

/-- Reads `dddd-dd-ddTdd:dd:dd.dddZ` and nothing else; the fields have to name
a real instant. -/
def readStrict? : List Char → Option Instant
  | [y1, y2, y3, y4, '-', m1, m2, '-', d1, d2, 'T', h1, h2, ':', n1, n2, ':', s1, s2, '.',
      f1, f2, f3, 'Z'] => do
    let year ← number? [y1, y2, y3, y4]
    let month ← number? [m1, m2]
    let day ← number? [d1, d2]
    let hour ← number? [h1, h2]
    let minute ← number? [n1, n2]
    let second ← number? [s1, s2]
    let milli ← number? [f1, f2, f3]
    ofParts? year month day hour minute second (milli * 1000000)
  | _ => none

/-- Reads a strict timestamp that may have blanks around it. -/
def readIso? (text : String) : Option Instant := readStrict? (trim text.toList)

/-- The nanoseconds of fraction digits; digits behind the ninth are cut. -/
def fractionNanos (digits : List Char) : Nat :=
  digitsValue ((digits ++ List.replicate 9 '0').take 9)

/-- The same instant some minutes later or earlier, at most a day. The seconds
within the minute stay, so a leap second stays one. -/
def shift (t : Instant) (minutes : Int) : Instant :=
  let total : Int := t.clock.hour * 60 + t.clock.minute + minutes
  let date := if total < 0 then t.date.previous else if 1440 ≤ total then t.date.next else t.date
  let inDay := (total % 1440).toNat
  ⟨date, ⟨inDay / 60, inDay % 60, t.clock.second, t.clock.nano,
    by have := t.clock.real; omega⟩⟩

/-- The instant a minute-counted clock shows: a leap second becomes the first
second of the next minute. -/
def withoutLeap (t : Instant) : Instant :=
  if t.clock.second < 60 then t
  else (⟨t.date, ⟨t.clock.hour, t.clock.minute, 0, t.clock.nano,
    by have := t.clock.real; omega⟩⟩ : Instant).shift 1

/-- The fraction behind a point, if there is one, as nanoseconds. -/
def readFraction : List Char → Option (Nat × List Char)
  | '.' :: rest =>
    let digits := rest.takeWhile isDigit
    if digits.isEmpty then none else some (fractionNanos digits, rest.dropWhile isDigit)
  | rest => some (0, rest)

/-- An offset from universal time, in minutes. -/
def readOffset : List Char → Option Int
  | ['Z'] | ['z'] => some 0
  | [sign, h1, h2, ':', m1, m2] => do
    let hours ← number? [h1, h2]
    let minutes ← number? [m1, m2]
    if 24 ≤ hours || 60 ≤ minutes then none
    else if sign = '+' then some (hours * 60 + minutes)
    else if sign = '-' || sign = Char.ofNat 0x2212 then some (-(hours * 60 + minutes : Int))
    else none
  | _ => none

/-- Reads a timestamp with any number of fraction digits and an offset. -/
def readGeneral? : List Char → Option Instant
  | y1 :: y2 :: y3 :: y4 :: '-' :: m1 :: m2 :: '-' :: d1 :: d2 :: mark ::
      h1 :: h2 :: ':' :: n1 :: n2 :: ':' :: s1 :: s2 :: rest => do
    let year ← number? [y1, y2, y3, y4]
    let month ← number? [m1, m2]
    let day ← number? [d1, d2]
    let hour ← number? [h1, h2]
    let minute ← number? [n1, n2]
    let second ← number? [s1, s2]
    if mark != 'T' && mark != 't' && mark != ' ' then none
    else
      let (nano, rest) ← readFraction rest
      let offset ← readOffset rest
      let wall ← ofParts? year month day hour minute second nano
      some (wall.shift (-offset))
  | _ => none

end Instant
end Polyquery.Calendar
