import Polyquery.Decimal.Double
import Polyquery.Text.Blank

/-! Decimal numerals cut to a 64-bit integer and a power of ten. Reading one as
a binary number rounds the integer and then once more for each power applied,
so the last bits can differ from those of the nearest number. -/
namespace Polyquery.Decimal
open Text

/-- Appends digits to a number while the result fits 64 bits. Gives the number
and the digits that are left. -/
def gather (total : Nat) : List Char → Nat × List Char
  | [] => (total, [])
  | c :: rest =>
    let next := total * 10 + digitValue c
    if next < twoTo 64 then gather next rest else (total, c :: rest)

theorem gather_lt {total : Nat} (small : total < twoTo 64) (digits : List Char) :
    (gather total digits).1 < twoTo 64 := by
  induction digits generalizing total with
  | nil => exact small
  | cons c rest ih =>
    simp only [gather]
    split
    · rename_i fits
      exact ih fits
    · exact small

/-- The number `± significand * 10 ^ exponent`. -/
structure Scaled where
  negative : Bool
  significand : Nat
  exponent : Int
  small : significand < twoTo 64
  deriving DecidableEq

namespace Scaled

/-- The numeral written with these digits before and after the decimal point
and this power of ten. Digits that do not fit are dropped, and those dropped
before the point raise the power. Zeros behind the point may still be taken up
after digits before it were dropped. -/
def ofParts (negative : Bool) (whole fraction : List Char) (power : Int) : Scaled :=
  let front := gather 0 whole
  let all := gather front.1 fraction
  let places : Int := fraction.length - all.2.length
  ⟨negative, all.1, power + front.2.length - places,
    gather_lt (gather_lt (by decide) whole) fraction⟩

/-- The greatest power of ten that is applied in one step. -/
def widest : Nat := 308

/-- A power of ten as a binary number. -/
def powerOfTen (n : Nat) : Double := Double.ofInt (tenTo n)

/-- The binary64 number that the rounded steps lead to; nothing beyond the
finite range. A power below what two steps can apply leaves zero. -/
def toDouble? (n : Scaled) : Option Double := do
  let x ← Double.ofRatio? n.negative n.significand 1
  if n.significand = 0 then some x
  else if widest < n.exponent then none
  else if 0 ≤ n.exponent then x.times? (powerOfTen n.exponent.toNat)
  else
    let size := (-n.exponent).toNat
    if size ≤ widest then x.dividedBy? (powerOfTen size)
    else if size ≤ 2 * widest then
      let x ← x.dividedBy? (powerOfTen widest)
      x.dividedBy? (powerOfTen (size - widest))
    else some (.zero n.negative)

end Scaled
end Polyquery.Decimal
