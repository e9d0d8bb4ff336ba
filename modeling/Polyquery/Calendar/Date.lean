import Polyquery.Text.Blank

/-! Days of the Gregorian calendar, extended backwards over the year zero. -/
namespace Polyquery.Calendar
open Text

def isLeap (year : Int) : Bool := year % 4 == 0 && (year % 100 != 0 || year % 400 == 0)

/-- The number of days of a month; none for a number that is no month. -/
def daysIn (year : Int) : Nat → Nat
  | 1 | 3 | 5 | 7 | 8 | 10 | 12 => 31
  | 4 | 6 | 9 | 11 => 30
  | 2 => if isLeap year then 29 else 28
  | _ => 0

/-- A day of the calendar. A month outside 1 to 12 has no days, so the bound on
the day also bounds the month. -/
structure Date where
  year : Int
  month : Nat
  day : Nat
  real : 1 ≤ day ∧ day ≤ daysIn year month
  deriving DecidableEq

namespace Date

def ofParts? (year : Int) (month day : Nat) : Option Date :=
  if real : 1 ≤ day ∧ day ≤ daysIn year month then some ⟨year, month, day, real⟩ else none

theorem one_le_daysIn_first (year : Int) : 1 ≤ daysIn year 1 := by simp [daysIn]

/-- The day after. -/
def next (date : Date) : Date :=
  if later : date.day + 1 ≤ daysIn date.year date.month then
    ⟨date.year, date.month, date.day + 1, by omega, later⟩
  else if first : 1 ≤ daysIn date.year (date.month + 1) then
    ⟨date.year, date.month + 1, 1, by omega, first⟩
  else ⟨date.year + 1, 1, 1, by omega, one_le_daysIn_first _⟩

/-- The day before. -/
def previous (date : Date) : Date :=
  if earlier : 1 ≤ date.day - 1 then
    ⟨date.year, date.month, date.day - 1, earlier, by have := date.real; omega⟩
  else if last : 1 ≤ daysIn date.year (date.month - 1) then
    ⟨date.year, date.month - 1, daysIn date.year (date.month - 1), last, Nat.le_refl _⟩
  else ⟨date.year - 1, 12, 31, by omega, by simp [daysIn]⟩

/-- A year has four digits from 0 to 9999, and a sign before them beyond. -/
def yearChars (year : Int) : List Char :=
  if 0 ≤ year && year ≤ 9999 then padded 4 year.toNat
  else (if year < 0 then '-' else '+') :: padded 4 year.natAbs

/-- `YYYY-MM-DD`. -/
def print (date : Date) : List Char :=
  yearChars date.year ++ '-' :: padded 2 date.month ++ '-' :: padded 2 date.day

end Date
end Polyquery.Calendar
