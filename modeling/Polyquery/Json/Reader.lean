import Polyquery.Json.Document
import Polyquery.Decimal.Numeral
import Polyquery.Decimal.Scaled

/-! Reading JSON text. A step takes what it needs from the front of the text and
hands on the rest; nothing means that the text is malformed. -/
namespace Polyquery.Json
open Decimal Text

/-- The blanks that JSON allows between its parts. -/
def isSpace (c : Char) : Bool := c = ' ' || c = '\n' || c = '\t' || c = '\r'

def skipSpaces (text : List Char) : List Char := text.dropWhile isSpace

/-- The number of a hexadecimal digit. -/
def hexDigit (c : Char) : Option Nat :=
  if '0' ≤ c && c ≤ '9' then some (c.toNat - '0'.toNat)
  else if 'a' ≤ c && c ≤ 'f' then some (c.toNat - 'a'.toNat + 10)
  else if 'A' ≤ c && c ≤ 'F' then some (c.toNat - 'A'.toNat + 10)
  else none

/-- The number of a run of hexadecimal digits. -/
def hexValue (digits : List Char) : Option Nat :=
  digits.foldlM (fun total c => (hexDigit c).map (total * 16 + ·)) 0

/-- The character that a one-letter escape stands for. -/
def escapeValue : Char → Option Nat
  | '"' => some 0x22
  | '\\' => some 0x5C
  | '/' => some 0x2F
  | 'b' => some 0x08
  | 'f' => some 0x0C
  | 'n' => some 0x0A
  | 'r' => some 0x0D
  | 't' => some 0x09
  | _ => none

/-- The code units of a quoted text, up to and without the closing quote. A
character that stands for itself is one unit, whatever its size. -/
def readUnits : List Char → Option (List Nat × List Char)
  | [] => none
  | '"' :: rest => some ([], rest)
  | '\\' :: 'u' :: a :: b :: c :: d :: rest => do
    let unit ← hexValue [a, b, c, d]
    let (units, rest) ← readUnits rest
    some (unit :: units, rest)
  | '\\' :: letter :: rest => do
    let unit ← escapeValue letter
    let (units, rest) ← readUnits rest
    some (unit :: units, rest)
  | c :: rest =>
    if c.toNat < 0x20 then none
    else do
      let (units, rest) ← readUnits rest
      some (c.toNat :: units, rest)

/-- The text of code units, where a high surrogate and the low one behind it
are one character. An unpaired surrogate makes no text. -/
def joinUnits : List Nat → Option (List Char)
  | [] => some []
  | high :: rest =>
    if 0xDC00 ≤ high && high < 0xE000 then none
    else if 0xD800 ≤ high && high < 0xDC00 then
      match rest with
      | low :: rest =>
        if 0xDC00 ≤ low && low < 0xE000 then
          (joinUnits rest).map (Char.ofNat (0x10000 + (high - 0xD800) * 0x400 + (low - 0xDC00)) :: ·)
        else none
      | [] => none
    else (joinUnits rest).map (Char.ofNat high :: ·)

/-- A quoted text whose opening quote is already read. The inner option is
empty when the text is well-formed but has an unpaired surrogate. -/
def readString (text : List Char) : Option (Option String × List Char) :=
  (readUnits text).map fun (units, rest) => ((joinUnits units).map String.ofList, rest)

/-- A run of digits and what follows it. -/
def takeDigits (text : List Char) : List Char × List Char :=
  (text.takeWhile isDigit, text.dropWhile isDigit)

/-- The digits before the point: a zero alone, or digits that do not begin
with one. -/
def readWhole (text : List Char) : Option (List Char × List Char) :=
  match takeDigits text with
  | ([], _) => none
  | (['0'], rest) => some (['0'], rest)
  | ('0' :: _, _) => none
  | (digits, rest) => some (digits, rest)

/-- The digits behind the point, none without a point. -/
def readFraction : List Char → Option (Option (List Char) × List Char)
  | '.' :: text =>
    match takeDigits text with
    | ([], _) => none
    | (digits, rest) => some (some digits, rest)
  | text => some (none, text)

/-- The power of ten, none without its mark. -/
def readExponent : List Char → Option (Option Int × List Char)
  | [] => some (none, [])
  | c :: text =>
    if c = 'e' || c = 'E' then
      let (negative, body) := takeSign text
      match takeDigits body with
      | ([], _) => none
      | (digits, rest) =>
        let size : Int := digitsValue digits
        some (some (if negative then -size else size), rest)
    else some (none, c :: text)

/-- The number of a numeral: an integer when it is spelled as one and fits, a
binary64 number otherwise, which is not always the nearest one. Negative zero
is a binary64 number. -/
def Number.ofNumeral? (negative : Bool) (whole : List Char) (fraction : Option (List Char))
    (power : Option Int) : Option Number :=
  let scaled : Option Number :=
    match (Scaled.ofParts negative whole (fraction.getD []) (power.getD 0)).toDouble? with
    | some x => if finite : x.isFinite = true then some (.float x finite) else none
    | none => none
  if fraction.isSome || power.isSome then scaled
  else
    let size := digitsValue whole
    if negative && size == 0 then scaled
    else (Number.ofInt? (if negative then -(size : Int) else size)).orElse fun _ => scaled

/-- A number. The inner option is empty for a number beyond the finite range. -/
def readNumber (text : List Char) : Option (Option Number × List Char) := do
  let (negative, text) := match text with
    | '-' :: rest => (true, rest)
    | rest => (false, rest)
  let (whole, text) ← readWhole text
  let (fraction, text) ← readFraction text
  let (power, text) ← readExponent text
  some (Number.ofNumeral? negative whole fraction power, text)

/-- How many arrays and objects may stand inside each other. -/
def depthLimit : Nat := 127

/-- An array or object with room for so many levels, itself included. -/
def withRoom (room : Nat) (document : Document) : Document :=
  if room = 0 then .unreadable else document

mutual
/-- A value. The first number bounds the steps, the second is the room left for
nesting. -/
def readValue : Nat → Nat → List Char → Option (Document × List Char)
  | 0, _, _ => none
  | steps + 1, room, text =>
    match skipSpaces text with
    | 'n' :: 'u' :: 'l' :: 'l' :: rest => some (.null, rest)
    | 't' :: 'r' :: 'u' :: 'e' :: rest => some (.bool true, rest)
    | 'f' :: 'a' :: 'l' :: 's' :: 'e' :: rest => some (.bool false, rest)
    | '"' :: rest => do
      let (content, rest) ← readString rest
      some ((content.map Document.string).getD .unreadable, rest)
    | '[' :: rest =>
      match skipSpaces rest with
      | ']' :: rest => some (withRoom room (.array []), rest)
      | rest => do
        let (items, rest) ← readItems steps (room - 1) rest
        some (withRoom room (.array items), rest)
    | '\x7b' :: rest =>
      match skipSpaces rest with
      | '\x7d' :: rest => some (withRoom room (.object []), rest)
      | rest => do
        let (members, rest) ← readMembers steps (room - 1) rest
        some (withRoom room ((members.map Document.object).getD .unreadable), rest)
    | rest => do
      let (found, rest) ← readNumber rest
      some ((found.map Document.number).getD .unreadable, rest)

/-- The items of an array up to the closing bracket, at least one. -/
def readItems : Nat → Nat → List Char → Option (List Document × List Char)
  | 0, _, _ => none
  | steps + 1, room, text => do
    let (item, rest) ← readValue steps room text
    match skipSpaces rest with
    | ']' :: rest => some ([item], rest)
    | ',' :: rest => do
      let (items, rest) ← readItems steps room rest
      some (item :: items, rest)
    | _ => none

/-- The members of an object up to the closing brace, at least one. The inner
option is empty when a name has an unpaired surrogate. -/
def readMembers : Nat → Nat → List Char → Option (Option (List (String × Document)) × List Char)
  | 0, _, _ => none
  | steps + 1, room, text =>
    match skipSpaces text with
    | '"' :: rest => do
      let (name, rest) ← readString rest
      match skipSpaces rest with
      | ':' :: rest => do
        let (value, rest) ← readValue steps room rest
        let member := name.map fun name => (name, value)
        match skipSpaces rest with
        | '\x7d' :: rest => some (member.map fun member => [member], rest)
        | ',' :: rest => do
          let (members, rest) ← readMembers steps room rest
          some (do some ((← member) :: (← members)), rest)
        | _ => none
      | _ => none
    | _ => none
end

/-- The contents of a text that is one JSON value and nothing else. -/
def Document.read? (text : String) : Option Document :=
  let chars := text.toList
  match readValue (2 * chars.length + 2) depthLimit chars with
  | some (document, rest) => if (skipSpaces rest).isEmpty then some document else none
  | none => none

/-- The value of a JSON text. -/
def parse? (text : String) : Option Json := (Document.read? text).bind Document.toJson?

end Polyquery.Json
