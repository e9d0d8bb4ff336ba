import Polyquery.Decimal.Power

/-! Binary64 numbers as data. A number is held as its 64 bits, so equality is
decidable, tells the two zeros apart and needs no floating-point arithmetic.
All rounding is done on exact ratios of natural numbers. -/
namespace Polyquery.Decimal

/-- A binary64 number, given by its bits. -/
structure Double where
  bits : UInt64
  deriving DecidableEq, Inhabited

/-- A binary floating-point layout: finite numbers are `m * 2 ^ q` with
`m < 2 ^ precision` and `least ≤ q ≤ greatest`. -/
structure Layout where
  precision : Nat
  least : Int
  greatest : Int

def binary64 : Layout := ⟨53, -1074, 971⟩

def binary32 : Layout := ⟨24, -149, 104⟩

/-- `num / (den * 2 ^ q)` as numerator and denominator. -/
def scaledRatio (num den : Nat) (q : Int) : Nat × Nat :=
  if 0 ≤ q then (num, den * twoTo q.toNat) else (num * twoTo (-q).toNat, den)

/-- The quotient rounded to the nearest natural number, a half going to the
even neighbour. -/
def nearestEven (num den : Nat) : Nat :=
  let floor := num / den
  let twice := 2 * (num % den)
  if twice < den then floor
  else if den < twice then floor + 1
  else if floor % 2 = 0 then floor else floor + 1

/-- The number `m * 2 ^ q` of the layout nearest to `num / den`, a half going
to the even neighbour. Nothing when the ratio is beyond the greatest number. -/
def Layout.round (layout : Layout) (num den : Nat) : Option (Nat × Int) :=
  if num = 0 then some (0, layout.least)
  else
    let guess := (Nat.log2 num : Int) - Nat.log2 den - layout.precision
    let q := max layout.least guess
    let (n, d) := scaledRatio num den q
    let (q, n, d) := if n < d * twoTo layout.precision then (q, n, d) else (q + 1, n, 2 * d)
    let m := nearestEven n d
    let (m, q) := if m < twoTo layout.precision then (m, q) else (m / 2, q + 1)
    if layout.greatest < q then none else some (m, q)

namespace Double

/-- The number of a sign, an eleven-bit exponent field and a fraction. -/
def ofFields (negative : Bool) (exponent fraction : Nat) : Double :=
  ⟨((if negative then twoTo 63 else 0) + exponent * twoTo 52 + fraction).toUInt64⟩

def negative (x : Double) : Bool := twoTo 63 ≤ x.bits.toNat

def exponentField (x : Double) : Nat := x.bits.toNat / twoTo 52 % twoTo 11

def fraction (x : Double) : Nat := x.bits.toNat % twoTo 52

/-- Neither infinite nor a NaN. -/
def isFinite (x : Double) : Bool := x.exponentField != 2047

def isNaN (x : Double) : Bool := x.exponentField == 2047 && x.fraction != 0

/-- The magnitude of a finite number as `m * 2 ^ q`. -/
def magnitude (x : Double) : Nat × Int :=
  if x.exponentField = 0 then (x.fraction, -1074)
  else (x.fraction + twoTo 52, (x.exponentField : Int) - 1075)

def zero (negative : Bool) : Double := ofFields negative 0 0

def infinity (negative : Bool) : Double := ofFields negative 2047 0

def nan : Double := ofFields false 2047 (twoTo 51)

/-- The number with magnitude `m * 2 ^ q`, where `(m, q)` comes from rounding
in the binary64 layout. -/
def ofMagnitude (negative : Bool) (m : Nat) (q : Int) : Double :=
  if m < twoTo 52 then ofFields negative 0 m
  else ofFields negative (q + 1075).toNat (m - twoTo 52)

/-- The number nearest to a ratio; nothing beyond the finite range. -/
def ofRatio? (negative : Bool) (num den : Nat) : Option Double :=
  (binary64.round num den).map fun (m, q) => ofMagnitude negative m q

/-- The number nearest to an integer, infinite beyond the finite range. -/
def ofInt (n : Int) : Double :=
  (ofRatio? (n < 0) n.natAbs 1).getD (infinity (n < 0))

/-- The product of two finite numbers, rounded; nothing beyond the finite
range. -/
def times? (x y : Double) : Option Double :=
  let (m, q) := x.magnitude
  let (n, r) := y.magnitude
  let (num, den) := scaledRatio (m * n) 1 (-(q + r))
  ofRatio? (x.negative != y.negative) num den

/-- The quotient of two finite numbers, rounded; nothing beyond the finite
range and nothing for the divisor zero. -/
def dividedBy? (x y : Double) : Option Double :=
  let (m, q) := x.magnitude
  let (n, r) := y.magnitude
  if n = 0 then none
  else
    let (num, den) := scaledRatio m n (r - q)
    ofRatio? (x.negative != y.negative) num den

/-- A ratio rounded to binary32 and held as the binary64 number of the same
value. -/
def ofRatioSingle? (negative : Bool) (num den : Nat) : Option Double := do
  let (m, q) ← binary32.round num den
  let (n, d) := scaledRatio m 1 (-q)
  ofRatio? negative n d

end Double
end Polyquery.Decimal
