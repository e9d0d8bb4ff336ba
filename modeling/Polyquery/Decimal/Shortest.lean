import Polyquery.Decimal.Double

/-! The shortest decimal that reads back as a given binary64 number. The reals
that round to the number form an interval; the coarsest decimal grid with a
point in that interval gives the digits, and of two points the nearer one. -/
namespace Polyquery.Decimal

/-- Which of two equally near points is taken. -/
inductive Tie where
  | even
  | up
  deriving DecidableEq

/-- A decimal `digits * 10 ^ exponent` that ends in no zero. -/
structure Shortest where
  digits : Nat
  exponent : Int
  deriving DecidableEq

/-- The interval of reals that round to `m * 2 ^ q`, in units of
`2 ^ (q - 2)`, with the number itself between its ends. The lower half is
narrower just above a power of two. -/
structure Rounding where
  low : Nat
  middle : Nat
  high : Nat
  unit : Int
  closed : Bool

def Double.rounding (x : Double) : Rounding :=
  let (m, q) := x.magnitude
  let narrow := m == twoTo 52 && 1 < x.exponentField
  ⟨4 * m - (if narrow then 1 else 2), 4 * m, 4 * m + 2, q - 2, m % 2 == 0⟩

/-- `num / den` against `point * 10 ^ k`, as two naturals to compare. -/
def against (num den point : Nat) (k : Int) : Nat × Nat :=
  if 0 ≤ k then (num, point * tenTo k.toNat * den) else (num * tenTo (-k).toNat, point * den)

/-- Whether the point `point * 10 ^ k` lies in the interval. -/
def Rounding.contains (r : Rounding) (point : Nat) (k : Int) : Bool :=
  let (lowNum, lowDen) := scaledRatio r.low 1 (-r.unit)
  let (highNum, highDen) := scaledRatio r.high 1 (-r.unit)
  let (low, atLow) := against lowNum lowDen point k
  let (high, atHigh) := against highNum highDen point k
  if r.closed then low ≤ atLow && atHigh ≤ high else low < atLow && atHigh < high

/-- The greatest power of ten that is at most `num / den`. -/
def decimalOrder (num den : Nat) : Int :=
  let guess := ((Nat.log2 num : Int) - Nat.log2 den) * 30103 / 100000
  let fits (k : Int) : Bool := let (value, point) := against num den 1 k; point ≤ value
  if fits (guess + 1) then guess + 1 else if fits guess then guess else guess - 1

/-- Whether of two neighbours the lower one is nearer to `value / one`. -/
def Tie.takesLower (tie : Tie) (value one : Nat) : Bool :=
  let twice := 2 * (value % one)
  twice < one || (twice == one && tie == .even && value / one % 2 == 0)

/-- The point of the grid `10 ^ k` that the interval holds, the nearer to the
number if it holds both neighbours. -/
def Rounding.onGrid (r : Rounding) (tie : Tie) (k : Int) : Option Nat :=
  let (num, den) := scaledRatio r.middle 1 (-r.unit)
  let (value, one) := against num den 1 k
  let below := value / one
  let above := below + 1
  match r.contains below k && below != 0, r.contains above k with
  | true, true => some (if tie.takesLower value one then below else above)
  | true, false => some below
  | false, true => some above
  | false, false => none

/-- The first grid with a point, from the coarsest of the given ones on. -/
def Rounding.search (r : Rounding) (tie : Tie) : Nat → Int → Shortest
  | 0, k => ⟨(r.onGrid tie k).getD 0, k⟩
  | tries + 1, k =>
    match r.onGrid tie k with
    | some point => ⟨point, k⟩
    | none => r.search tie tries (k - 1)

/-- Zeros at the end of the digits moved into the exponent, at most as many as
the bound says. -/
def Shortest.trimmed : Nat → Shortest → Shortest
  | 0, s => s
  | bound + 1, s =>
    if s.digits != 0 && s.digits % 10 == 0 then Shortest.trimmed bound ⟨s.digits / 10, s.exponent + 1⟩
    else s

/-- The shortest decimal for the magnitude of a finite number other than zero. -/
def Double.shortest (x : Double) (tie : Tie) : Shortest :=
  let r := x.rounding
  let (num, den) := scaledRatio r.middle 1 (-r.unit)
  (r.search tie 18 (decimalOrder num den)).trimmed 20

end Polyquery.Decimal
