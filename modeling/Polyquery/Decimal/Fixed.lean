import Polyquery.Decimal.Numeral

/-! Fixed-point decimals as a database column holds them: a whole number of at
most 96 bits and a scale of at most 28 places. -/
namespace Polyquery.Decimal
open Text

/-- One more than the greatest mantissa. -/
def mantissaLimit : Nat := twoTo 96

/-- The greatest number of places. -/
def scaleLimit : Nat := 28

/-- The exact number `± mantissa / 10 ^ scale`. -/
structure Fixed where
  negative : Bool
  mantissa : Nat
  scale : Nat
  small : mantissa < mantissaLimit
  places : scale ≤ scaleLimit
  deriving DecidableEq

namespace Fixed

def ofParts? (negative : Bool) (mantissa scale : Nat) : Option Fixed :=
  if fits : mantissa < mantissaLimit ∧ scale ≤ scaleLimit then
    some ⟨negative, mantissa, scale, fits.1, fits.2⟩
  else none

/-- The mantissa and the scale when the next digit is left out: a half rounds
up. If that makes the mantissa too great, one place more is given up. -/
def roundOff (mantissa scale : Nat) (next : Char) : Nat × Nat :=
  if digitValue next < 5 then (mantissa, scale)
  else if mantissa + 1 = mantissaLimit && 0 < scale then ((mantissa + 5) / 10, scale - 1)
  else (mantissa + 1, scale)

/-- Digits behind the point taken up one by one, as many as fit. The first one
that does not fit rounds; what stands behind it is not read. -/
def extend (mantissa scale : Nat) : List Char → Option (Nat × Nat)
  | [] => some (mantissa, scale)
  | c :: rest =>
    let next := mantissa * 10 + digitValue c
    if !isDigit c then none
    else if scale < scaleLimit && next < mantissaLimit then extend next (scale + 1) rest
    else some (roundOff mantissa scale c)

/-- Reads a sign, digits and a point with more digits; at least one digit. Low
lines are passed over, but none may precede the first digit. -/
def read? (text : List Char) : Option Fixed :=
  let (negative, body) := takeSign text
  if (body.takeWhile fun c => !isDigit c).contains '_' then none
  else
    let body := body.filter (· != '_')
    let whole := body.takeWhile isDigit
    let fraction? : Option (List Char) := match body.dropWhile isDigit with
      | [] => some []
      | '.' :: digits => some digits
      | _ => none
    match fraction? with
    | none => none
    | some fraction =>
      if whole.isEmpty && fraction.isEmpty then none
      else if mantissaLimit ≤ digitsValue whole then none
      else do
        let (mantissa, scale) ← extend (digitsValue whole) 0 fraction
        ofParts? negative mantissa scale

def zero (negative : Bool) : Fixed := ⟨negative, 0, 0, by decide, by decide⟩

/-- The number `mantissa / 10 ^ scale` with the most places, at most `scale`,
for which it fits when rounded, a half going to the even neighbour. -/
def rounded? (negative : Bool) (mantissa scale : Nat) : Option Fixed :=
  (List.range (scale + 1)).findSome? fun dropped =>
    ofParts? negative (nearestEven mantissa (tenTo dropped)) (scale - dropped)

/-- The sum of two numbers of one sign, rounded if it is too long; nothing
beyond the greatest number. -/
def plus? (x y : Fixed) : Option Fixed :=
  let scale := max x.scale y.scale
  rounded? x.negative
    (x.mantissa * tenTo (scale - x.scale) + y.mantissa * tenTo (scale - y.scale)) scale

/-- Drop a zero at the end of the fraction for each place, as long as there is
one. -/
def strip (negative : Bool) : (scale mantissa : Nat) → mantissa < mantissaLimit →
    scale ≤ scaleLimit → Fixed
  | 0, mantissa, small, places => ⟨negative, mantissa, 0, small, places⟩
  | scale + 1, mantissa, small, places =>
    if mantissa % 10 = 0 then strip negative scale (mantissa / 10) (by omega) (by omega)
    else ⟨negative, mantissa, scale + 1, small, places⟩

/-- The same number without zeros at the end of the fraction; zero loses its
sign. -/
def normalized (x : Fixed) : Fixed :=
  strip (x.negative && x.mantissa != 0) x.scale x.mantissa x.small x.places

/-- The digits before and behind the point. -/
def parts (x : Fixed) : List Char × List Char :=
  (Nat.toDigits 10 (x.mantissa / tenTo x.scale),
    if x.scale = 0 then [] else padded x.scale (x.mantissa % tenTo x.scale))

/-- The text of a decimal, with as many digits behind the point as it has places. -/
def print (x : Fixed) : List Char :=
  let (whole, fraction) := x.parts
  let size := if fraction.isEmpty then whole else whole ++ '.' :: fraction
  if x.negative then '-' :: size else size

end Fixed
end Polyquery.Decimal
