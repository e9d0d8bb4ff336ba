import Polyquery.Decimal.Fixed
import Polyquery.Text.Split

/-! Decimals that a server sends as groups of four digits, cut on both sides of
the point, with a power of 10000 for each group. The groups are added up from
the left as fixed-point decimals. A group that is no fixed-point decimal makes
the number unreadable, so no digit may stand behind the 28th place; a sum that
is too long loses places instead. -/
namespace Polyquery.Decimal
open Text

/-- The number `digits * 10000 ^ weight`. -/
structure DigitGroup where
  digits : Nat
  weight : Int
  deriving DecidableEq

namespace DigitGroup

/-- Digits cut into fours, filled with zeros on the right. -/
def fours : List Char → List Nat
  | [] => []
  | a :: b :: c :: d :: rest => digitsValue [a, b, c, d] :: fours rest
  | short => [digitsValue short * tenTo (4 - short.length)]

/-- The groups of the digits before and behind the point, largest first. Groups
of zeros are not sent. -/
def ofParts (whole fraction : List Char) : List DigitGroup :=
  let front := fours (List.replicate ((4 - whole.length % 4) % 4) '0' ++ whole)
  let groups := (front ++ fours fraction).zipIdx.map fun (digits, place) =>
    ⟨digits, (front.length : Int) - 1 - place⟩
  groups.filter fun g => g.digits != 0

/-- A group as a fixed-point decimal, if it is one. -/
def toFixed? (negative : Bool) (g : DigitGroup) : Option Fixed :=
  if 0 ≤ g.weight then Fixed.ofParts? negative (g.digits * tenTo (4 * g.weight.toNat)) 0
  else Fixed.ofParts? negative g.digits (4 * (-g.weight).toNat)

end DigitGroup

namespace Fixed

/-- The sum of groups from the left. -/
def ofGroups? (negative : Bool) (groups : List DigitGroup) : Option Fixed :=
  groups.foldlM (fun sum g => do sum.plus? (← g.toFixed? negative)) (zero negative)

/-- Reads a sign, digits and a point among them, as they arrive in groups. -/
def readGrouped? (text : List Char) : Option Fixed :=
  let (negative, body) := takeSign text
  let (whole, fraction) := (cutFirst '.' body).getD (body, [])
  let digits := whole ++ fraction
  if digits.isEmpty || !digits.all isDigit then none
  else ofGroups? negative (DigitGroup.ofParts whole fraction)

end Fixed
end Polyquery.Decimal
