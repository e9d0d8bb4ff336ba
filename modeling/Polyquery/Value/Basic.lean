import Polyquery.Calendar.Instant
import Polyquery.Json.Printer

/-! Bound values: what stands for a placeholder of a statement. -/
namespace Polyquery
open Decimal Calendar

inductive Value where
  | null
  | bool (b : Bool)
  | int (n : Int64)
  | float (x : Double)
  /-- A text, also the JSON text of an array or object. -/
  | string (s : String)
  | instant (t : Instant)
  deriving DecidableEq, Inhabited

namespace Value

def isNull : Value → Bool
  | .null => true
  | _ => false

/-- A value that bounds a range: neither null nor the empty text. -/
def isBound : Value → Bool
  | .null => false
  | .string s => !s.isEmpty
  | _ => true

/-- The text of a value as people read it. -/
def display : Value → String
  | .null => "NULL"
  | .bool true => "true"
  | .bool false => "false"
  | .int n => toString n.toInt
  | .float x => Style.plain.print x
  | .string s => s
  | .instant t => t.iso

/-- The text that patterns are made of; null has none. -/
def text? : Value → Option String
  | .null => none
  | value => some value.display

/-- The value as JSON: an instant is its strict text. -/
def toJson : Value → Json
  | .null => .null
  | .bool b => .bool b
  | .int n => .number (.ofInt64 n)
  | .float x => .ofDouble x
  | .string s => .string s
  | .instant t => .string t.iso

/-- The value as JSON under the name of its kind. -/
def tagged : Value → Json
  | .null => .string "Null"
  | .bool b => .object [("Bool", .bool b)]
  | .int n => .object [("Int", .number (.ofInt64 n))]
  | .float x => .object [("Float", .ofDouble x)]
  | .string s => .object [("String", .string s)]
  | .instant t => .object [("DateTime", .string t.exact)]

end Value
end Polyquery
