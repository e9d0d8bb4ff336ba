import Polyquery.Calendar.Instant
import Polyquery.Decimal.Grouped
import Polyquery.Json.Reader
import Polyquery.Text.Split

/-! Cells of a result set. The server sends text, the type of the column says
how it is read. A cell that cannot be read is null. -/
namespace Polyquery.Database
open Calendar Decimal Text

inductive Server where
  | postgres
  | mysql
  deriving DecidableEq

/-- How the text of a cell becomes JSON. -/
inductive CellType where
  | truthWord
  | truthNumber
  | integer
  | single
  | double
  | decimal
  /-- A decimal in groups of four digits. -/
  | groupedDecimal
  | json
  /-- A timestamp with an offset from universal time. -/
  | timestamp
  /-- A day and a time of day in universal time, or a day alone. -/
  | dayAndTime
  | date
  | time
  | uuid
  | text
  /-- A type that is not read. -/
  | unread
  deriving DecidableEq

/-- How cells of a column type are read. -/
def Server.cellType : Server → String → CellType
  | .postgres, name =>
    match name with
    | "BOOL" => .truthWord
    | "INT2" | "INT4" | "INT8" => .integer
    | "FLOAT4" => .single
    | "FLOAT8" => .double
    | "NUMERIC" => .groupedDecimal
    | "JSON" | "JSONB" => .json
    | "TIMESTAMPTZ" | "TIMESTAMP" => .timestamp
    | "DATE" => .date
    | "TIME" => .time
    | "UUID" => .uuid
    | "TEXT" | "VARCHAR" | "NAME" | "CHAR" | "UNKNOWN" => .text
    | _ => .unread
  | .mysql, name =>
    match name with
    | "BOOLEAN" => .truthNumber
    | "TINYINT" | "SMALLINT" | "MEDIUMINT" | "INT" | "BIGINT" => .integer
    | "TINYINT UNSIGNED" | "SMALLINT UNSIGNED" | "MEDIUMINT UNSIGNED" | "INT UNSIGNED"
    | "BIGINT UNSIGNED" => .integer
    | "FLOAT" | "FLOAT UNSIGNED" => .single
    | "DOUBLE" | "DOUBLE UNSIGNED" => .double
    | "DECIMAL" | "DECIMAL UNSIGNED" => .decimal
    | "JSON" => .json
    | "TIMESTAMP" | "DATETIME" => .dayAndTime
    | "DATE" => .date
    | "TIME" => .time
    | "VARCHAR" | "CHAR" | "ENUM" | "TEXT" | "LONGTEXT" => .text
    | _ => .unread

/-- A signed run of digits. -/
def readInteger? (text : List Char) : Option Int :=
  let (negative, digits) := takeSign text
  if digits.isEmpty || !digits.all isDigit then none
  else some (if negative then -(digitsValue digits : Int) else digitsValue digits)

/-- A run of digits, at least one. -/
def readDigits? (text : List Char) : Option Nat :=
  if text.isEmpty then none else number? text

/-- A day as year, month and day between hyphens. -/
def readDate? (text : List Char) : Option Date :=
  match segments '-' text with
  | [year, month, day] => do
    Date.ofParts? (← readDigits? year) (← readDigits? month) (← readDigits? day)
  | _ => none

/-- A time of day with at most microseconds; there is no leap second. -/
def readTime? (text : List Char) : Option Clock :=
  match segments ':' text with
  | [hour, minute, seconds] => do
    let (second, fraction) := (cutFirst '.' seconds).getD (seconds, ['0'])
    if fraction.isEmpty || !fraction.all isDigit then none
    else
      let second ← readDigits? second
      let micros := Instant.fractionNanos fraction / 1000
      if second < 60 then Clock.ofParts? (← readDigits? hour) (← readDigits? minute) second (micros * 1000)
      else none
  | _ => none

/-- A day, with a time of day behind a blank or without one. -/
def readDayAndTime? (text : List Char) : Option Instant :=
  match cutFirst ' ' text with
  | some (day, time) => do some ⟨← readDate? day, ← readTime? time⟩
  | none => (readDate? text).map fun day => ⟨day, .midnight⟩

/-- The lower-case text of a UUID, with hyphens behind the 8th, 12th, 16th and
20th digit. -/
def readUuid? (text : List Char) : Option (List Char) :=
  let digits := text.filter (· != '-')
  if digits.length = 32 && digits.all fun c => (Json.hexDigit c).isSome then
    let low := digits.map Char.toLower
    some (low.take 8 ++ '-' :: (low.drop 8).take 4 ++ '-' :: (low.drop 12).take 4 ++
      '-' :: (low.drop 16).take 4 ++ '-' :: low.drop 20)
  else none

/-- A decimal as the JSON number that its text reads as, and as the text itself
when that is no number. -/
def ofDecimal (x : Fixed) : Json :=
  let text := x.normalized.print
  match Json.readNumber text with
  | some (some n, []) => .number n
  | _ => .string (String.ofList text)

def ofInteger (n : Int) : Json := (Json.Number.ofInt? n).elim .null .number

def ofChars (text : List Char) : Json := .string (String.ofList text)

/-- The JSON of a cell. -/
def CellType.read (type : CellType) (text : String) : Json :=
  let chars := text.toList
  match type with
  | .truthWord => .bool (text == "true")
  | .truthNumber => (readInteger? chars).elim .null fun n => .bool (n != 0)
  | .integer => (readInteger? chars).elim .null ofInteger
  | .single => (FloatText.read? chars).elim .null fun x => .ofDouble x.toSingle
  | .double => (FloatText.read? chars).elim .null fun x => .ofDouble x.toDouble
  | .decimal => (Fixed.read? chars).elim .null ofDecimal
  | .groupedDecimal => (Fixed.readGrouped? chars).elim .null ofDecimal
  | .json => (Json.parse? text).getD .null
  | .timestamp => (Instant.readGeneral? chars).elim .null fun t => .string t.withoutLeap.iso
  | .dayAndTime => (readDayAndTime? chars).elim .null fun t => .string t.iso
  | .date => (readDate? chars).elim .null fun date => ofChars date.print
  | .time => (readTime? chars).elim .null fun clock => ofChars (clock.printSeconds ++ clock.fraction)
  | .uuid => (readUuid? chars).elim .null ofChars
  | .text => .string text
  | .unread => .null

end Polyquery.Database
