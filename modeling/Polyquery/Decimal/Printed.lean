import Polyquery.Decimal.Shortest

/-! The two printed forms of a binary64 number. Both show the shortest digits
that read back; they differ in where positional notation ends and in whether a
whole number keeps a fraction. -/
namespace Polyquery.Decimal

/-- Which powers of ten are written positionally, whether a whole number ends
in `.0`, and which of two equally near decimals is shown. -/
structure Style where
  positionalFrom : Option Int
  positionalTo : Option Int
  keepsFraction : Bool
  tie : Tie

/-- Numbers in JSON text: positional from `1e-5` up to below `1e16`, always
with a fraction; a tie goes to the even digit. -/
def Style.json : Style := ⟨some (-5), some 15, true, .even⟩

/-- Numbers shown to people: always positional, whole numbers without a
fraction; a tie goes up. -/
def Style.plain : Style := ⟨none, none, false, .up⟩

/-- Digits with the decimal point after the given number of them. -/
def positional (keepsFraction : Bool) (digits : List Char) (exponent : Int) : List Char :=
  if 0 ≤ exponent then
    digits ++ List.replicate exponent.toNat '0' ++ (if keepsFraction then ['.', '0'] else [])
  else
    let places := (-exponent).toNat
    if places < digits.length then
      digits.take (digits.length - places) ++ '.' :: digits.drop (digits.length - places)
    else
      '0' :: '.' :: List.replicate (places - digits.length) '0' ++ digits

/-- One digit, the others behind a point, and a signed power of ten. -/
def scientific (digits : List Char) (order : Int) : List Char :=
  let mantissa := match digits with
    | first :: second :: more => first :: '.' :: second :: more
    | short => short
  mantissa ++ 'e' :: (if order < 0 then '-' else '+') :: Nat.toDigits 10 order.natAbs

/-- The magnitude of a finite number. -/
def Style.magnitude (style : Style) (x : Double) : List Char :=
  if x.magnitude.1 = 0 then
    if style.keepsFraction then ['0', '.', '0'] else ['0']
  else
    let s := x.shortest style.tie
    let digits := Nat.toDigits 10 s.digits
    let order := s.exponent + digits.length - 1
    let inside := style.positionalFrom.all (· ≤ order) && style.positionalTo.all (order ≤ ·)
    if inside then positional style.keepsFraction digits s.exponent
    else scientific digits order

/-- The text of a number; infinities and NaN are words. -/
def Style.print (style : Style) (x : Double) : String :=
  if x.isNaN then "NaN"
  else
    let body := if x.isFinite then style.magnitude x else ['i', 'n', 'f']
    String.ofList (if x.negative then '-' :: body else body)

end Polyquery.Decimal
