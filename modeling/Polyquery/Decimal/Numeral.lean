import Polyquery.Decimal.Double
import Polyquery.Text.Blank

/-! Decimal numerals and the binary numbers they denote. A numeral is an exact
decimal; reading it as a binary number rounds once, to the nearest, whatever
the number of its digits. -/
namespace Polyquery.Decimal

/-- The exact number `± digits * 10 ^ exponent`. -/
structure Numeral where
  negative : Bool
  digits : Nat
  exponent : Int
  deriving DecidableEq

namespace Numeral

/-- The numeral written with these digits before and after the decimal point
and this power of ten. -/
def ofParts (negative : Bool) (whole fraction : List Char) (power : Int) : Numeral :=
  ⟨negative, Text.digitsValue (whole ++ fraction), power - fraction.length⟩

/-- The magnitude as a ratio. Powers of ten far outside the range of binary64
are cut back, which changes no rounded result. -/
def ratio (n : Numeral) : Nat × Nat :=
  let lowest : Int := -400 - (Nat.log2 n.digits + 1)
  if n.digits = 0 then (0, 1)
  else if 400 < n.exponent then (n.digits * tenTo 400, 1)
  else if n.exponent < lowest then (0, 1)
  else if 0 ≤ n.exponent then (n.digits * tenTo n.exponent.toNat, 1)
  else (n.digits, tenTo (-n.exponent).toNat)

/-- The nearest binary64 number; nothing beyond the finite range. -/
def toDouble? (n : Numeral) : Option Double :=
  let (num, den) := n.ratio
  Double.ofRatio? n.negative num den

/-- The nearest binary64 number, infinite beyond the finite range. -/
def toDouble (n : Numeral) : Double :=
  n.toDouble?.getD (Double.infinity n.negative)

/-- The nearest binary32 number in binary64, infinite beyond its range. -/
def toSingle (n : Numeral) : Double :=
  let (num, den) := n.ratio
  (Double.ofRatioSingle? n.negative num den).getD (Double.infinity n.negative)

end Numeral

/-- A numeral or one of the words for infinity and for no number. -/
inductive FloatText where
  | numeral (n : Numeral)
  | infinity (negative : Bool)
  | nan
  deriving DecidableEq

/-- A sign, if there is one, and the rest of the text. -/
def takeSign : List Char → Bool × List Char
  | '+' :: rest => (false, rest)
  | '-' :: rest => (true, rest)
  | rest => (false, rest)

/-- The power of ten behind `e` or `E`; without the mark it is zero. Anything
else is refused. -/
def readPower : List Char → Option Int
  | [] => some 0
  | c :: rest =>
    if c = 'e' || c = 'E' then
      let (negative, digits) := takeSign rest
      if digits.isEmpty || !digits.all Text.isDigit then none
      else
        let size : Int := Text.digitsValue digits
        some (if negative then -size else size)
    else none

/-- Reads a number in the free form: a sign, digits with or without a point
(at least one digit in all), a power of ten, or the words `inf`, `infinity`
and `nan` in any case. -/
def FloatText.read? (text : List Char) : Option FloatText :=
  let (negative, body) := takeSign text
  let word := Text.lowerAscii (String.ofList body)
  if word = "inf" || word = "infinity" then some (.infinity negative)
  else if word = "nan" then some .nan
  else
    let whole := body.takeWhile Text.isDigit
    let rest := body.dropWhile Text.isDigit
    let (fraction, rest) := match rest with
      | '.' :: more => (more.takeWhile Text.isDigit, more.dropWhile Text.isDigit)
      | other => ([], other)
    if whole.isEmpty && fraction.isEmpty then none
    else (readPower rest).map fun power => .numeral (.ofParts negative whole fraction power)

def FloatText.toDouble : FloatText → Double
  | .numeral n => n.toDouble
  | .infinity negative => .infinity negative
  | .nan => .nan

def FloatText.toSingle : FloatText → Double
  | .numeral n => n.toSingle
  | .infinity negative => .infinity negative
  | .nan => .nan

end Polyquery.Decimal
