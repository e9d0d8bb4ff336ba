import Polyquery.Toml.Basic
import Polyquery.Calendar.Instant
import Polyquery.Json.Reader
import Polyquery.Text.Split

/-! The unquoted scalars of TOML: numbers, booleans, dates and times. Each is a
run of characters without blanks, apart from the one blank that may part a
date from a time, and is classified as a whole. -/
namespace Polyquery.Toml
open Text Calendar

/-- Digits in the given class, single underscores allowed between two of them. -/
def groupedDigits? (inClass : Char → Bool) (text : List Char) : Option (List Char) :=
  if (segments '_' text).all fun group => !group.isEmpty && group.all inClass then
    some (text.filter (· != '_'))
  else none

/-- Decimal digits that do not begin with a zero, unless it stands alone. -/
def wholeDigits? (text : List Char) : Option (List Char) :=
  match groupedDigits? isDigit text with
  | some ['0'] => some ['0']
  | some ('0' :: _) => none
  | other => other

def inInt64 (n : Int) : Bool := -0x8000000000000000 ≤ n && n < 0x8000000000000000

def isOctal (c : Char) : Bool := '0' ≤ c && c ≤ '7'

def isBinary (c : Char) : Bool := c = '0' || c = '1'

/-- The number of digits in a base up to sixteen. -/
def inBase (base : Nat) (digits : List Char) : Nat :=
  digits.foldl (fun total c => total * base + (Json.hexDigit c).getD 0) 0

def integer? (text : List Char) : Option Int :=
  let found : Option Int := match text with
    | '0' :: 'x' :: rest =>
      (groupedDigits? (fun c => (Json.hexDigit c).isSome) rest).map fun ds => (inBase 16 ds : Int)
    | '0' :: 'o' :: rest => (groupedDigits? isOctal rest).map fun ds => (inBase 8 ds : Int)
    | '0' :: 'b' :: rest => (groupedDigits? isBinary rest).map fun ds => (inBase 2 ds : Int)
    | '+' :: rest => (wholeDigits? rest).map fun ds => (digitsValue ds : Int)
    | '-' :: rest => (wholeDigits? rest).map fun ds => -(digitsValue ds : Int)
    | rest => (wholeDigits? rest).map fun ds => (digitsValue ds : Int)
  found.filter inInt64

/-- A power of ten behind its mark. -/
def isPower (text : List Char) : Bool := (groupedDigits? isDigit (Decimal.takeSign text).2).isSome

/-- Whether the text is a fractional number: whole digits with a fraction, a
power of ten, or both, or one of the words `inf` and `nan`. -/
def isFloat (text : List Char) : Bool :=
  let body := (Decimal.takeSign text).2
  if body = ['i', 'n', 'f'] || body = ['n', 'a', 'n'] then true
  else
    let whole := body.takeWhile fun c => isDigit c || c = '_'
    let rest := body.dropWhile fun c => isDigit c || c = '_'
    (wholeDigits? whole).isSome &&
      match rest with
      | '.' :: rest =>
        let fraction := rest.takeWhile fun c => isDigit c || c = '_'
        (groupedDigits? isDigit fraction).isSome &&
          match rest.dropWhile fun c => isDigit c || c = '_' with
          | [] => true
          | mark :: power => (mark = 'e' || mark = 'E') && isPower power
      | mark :: power => (mark = 'e' || mark = 'E') && isPower power
      | [] => false

/-- Whether a fractional number in digits is beyond the greatest one. Of numbers
with a minus sign none is. -/
def overflows (text : List Char) : Bool :=
  match Decimal.FloatText.read? (text.filter (· != '_')) with
  | some (.numeral n) => !n.negative && n.toDouble?.isNone
  | _ => false

def isDate : List Char → Bool
  | [y1, y2, y3, y4, '-', m1, m2, '-', d1, d2] =>
    match number? [y1, y2, y3, y4], number? [m1, m2], number? [d1, d2] with
    | some year, some month, some day => (Date.ofParts? year month day).isSome
    | _, _, _ => false
  | _ => false

/-- A time of day, without or with an offset behind it. -/
def isTime (offsetAllowed : Bool) : List Char → Bool
  | h1 :: h2 :: ':' :: m1 :: m2 :: ':' :: s1 :: s2 :: rest =>
    match number? [h1, h2], number? [m1, m2], number? [s1, s2], Instant.readFraction rest with
    | some hour, some minute, some second, some (nano, rest) =>
      (Clock.ofParts? hour minute second nano).isSome &&
        (rest.isEmpty || (offsetAllowed && (Instant.readOffset rest).isSome))
    | _, _, _, _ => false
  | _ => false

/-- A date, a time, or both with a letter or a blank between. -/
def isMoment (text : List Char) : Bool :=
  isDate text || isTime false text ||
    (isDate (text.take 10) &&
      match text.drop 10 with
      | mark :: time => (mark = 'T' || mark = 't' || mark = ' ') && isTime true time
      | [] => false)

/-- The characters of unquoted scalars. -/
def isScalarChar (c : Char) : Bool :=
  c.isAlphanum || c = '_' || c = '+' || c = '-' || c = '.' || c = ':'

/-- The longest unquoted scalar in front of a text. A date takes the time along
that follows it after one blank. -/
def takeScalar (text : List Char) : List Char × List Char :=
  let first := text.takeWhile isScalarChar
  let rest := text.dropWhile isScalarChar
  match rest with
  | ' ' :: h1 :: h2 :: ':' :: more =>
    if isDate first && isDigit h1 && isDigit h2 then
      let time := (h1 :: h2 :: ':' :: more).takeWhile isScalarChar
      (first ++ ' ' :: time, (h1 :: h2 :: ':' :: more).dropWhile isScalarChar)
    else (first, rest)
  | _ => (first, rest)

def scalar? (text : List Char) : Option Value :=
  if text = "true".toList then some (.boolean true)
  else if text = "false".toList then some (.boolean false)
  else
    match integer? text with
    | some n => some (.integer n)
    | none =>
      if isFloat text then if overflows text then none else some (.float (String.ofList text))
      else if isMoment text then some (.moment (String.ofList text))
      else none

end Polyquery.Toml
