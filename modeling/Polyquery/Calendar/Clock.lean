import Polyquery.Text.Blank

/-! Times of day, down to the nanosecond. Any minute may have a leap second. -/
namespace Polyquery.Calendar
open Text

/-- A time of day; second 60 is a leap second. -/
structure Clock where
  hour : Nat
  minute : Nat
  second : Nat
  nano : Nat
  real : hour < 24 ∧ minute < 60 ∧ second ≤ 60 ∧ nano < 1000000000
  deriving DecidableEq

namespace Clock

def ofParts? (hour minute second nano : Nat) : Option Clock :=
  if real : hour < 24 ∧ minute < 60 ∧ second ≤ 60 ∧ nano < 1000000000 then
    some ⟨hour, minute, second, nano, real⟩
  else none

def midnight : Clock := ⟨0, 0, 0, 0, by omega⟩

/-- `HH:MM:SS`. -/
def printSeconds (clock : Clock) : List Char :=
  padded 2 clock.hour ++ ':' :: padded 2 clock.minute ++ ':' :: padded 2 clock.second

/-- Exactly three fraction digits; further digits are cut, not rounded. -/
def millis (clock : Clock) : List Char := '.' :: padded 3 (clock.nano / 1000000)

/-- The fraction in 0, 3, 6 or 9 digits, the fewest that lose nothing. -/
def fraction (clock : Clock) : List Char :=
  if clock.nano = 0 then []
  else if clock.nano % 1000000 = 0 then '.' :: padded 3 (clock.nano / 1000000)
  else if clock.nano % 1000 = 0 then '.' :: padded 6 (clock.nano / 1000)
  else '.' :: padded 9 clock.nano

end Clock
end Polyquery.Calendar
