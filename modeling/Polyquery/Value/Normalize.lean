import Polyquery.Value.Basic

/-! From JSON to bound values. Arrays and objects are bound as their compact
text, strict timestamps as instants, and the two placeholder dates that stand
for an open bound as null. -/
namespace Polyquery
open Decimal Calendar

/-- The placeholder for an open lower bound. -/
def openLow : String := "0000-00-00T00:00:00.000Z"

/-- The placeholder for an open upper bound. -/
def openHigh : String := "9999-00-00T00:00:00.000Z"

namespace Value

/-- An integer beyond the signed 64 bits is bound as the nearest binary64
number. -/
def ofNumber : Json.Number → Value
  | .int n _ => if -0x8000000000000000 ≤ n ∧ n < 0x8000000000000000 then .int (.ofInt n) else .float (.ofInt n)
  | .float x _ => .float x

def ofText (text : String) : Value :=
  if text = openLow ∨ text = openHigh then .null
  else match Instant.readIso? text with
    | some t => .instant t
    | none => .string text

def ofJson : Json → Value
  | .null => .null
  | .bool b => .bool b
  | .number n => ofNumber n
  | .string s => ofText s
  | json@(.array _) => .string json.compact
  | json@(.object _) => .string json.compact

/-- An integer comes back from JSON as it was. -/
@[simp] theorem ofJson_toJson_int (n : Int64) : ofJson (Value.int n).toJson = .int n := by
  have inRange : -0x8000000000000000 ≤ n.toInt ∧ n.toInt < 0x8000000000000000 :=
    ⟨Int64.le_toInt n, Int64.toInt_lt n⟩
  have number : ofJson (Value.int n).toJson =
      if -0x8000000000000000 ≤ n.toInt ∧ n.toInt < 0x8000000000000000 then .int (.ofInt n.toInt)
      else .float (.ofInt n.toInt) := rfl
  rw [number, if_pos inRange, Int64.ofInt_toInt]

end Value

/-- The values of a row under their column names. -/
def Row.values (row : Row) : List (String × Value) :=
  row.entries.map fun (column, json) => (column, Value.ofJson json)

end Polyquery
