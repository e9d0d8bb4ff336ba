import Polyquery.Keyed.Dictionary
import Polyquery.Sql.Condition
import Polyquery.Text.Blank

/-! Filter keys. A key names a column of the base table, or with a dot in it a
column of another table. A numeric marker in front or behind makes room for the
same column twice and is not part of the name. -/
namespace Polyquery
open Text

namespace Key

/-- The text behind digits and a colon, if any is left. -/
def behindMarker? (key : List Char) : Option (List Char) :=
  match cutFirst ':' key with
  | some (marker, rest) =>
    if !marker.isEmpty && marker.all isDigit && !rest.isEmpty then some rest else none
  | none => none

/-- The text before a colon and digits, if any is left. -/
def beforeMarker? (key : List Char) : Option (List Char) :=
  match cutLast ':' key with
  | some (name, marker) =>
    if !name.isEmpty && !marker.isEmpty && marker.all isDigit then some name else none
  | none => none

/-- The key without its marker. -/
def canonicalChars (key : List Char) : List Char :=
  ((behindMarker? key).orElse fun _ => beforeMarker? key).getD key

def canonical (key : String) : String := String.ofList (canonicalChars key.toList)

end Key

/-- The name before the first dot and the name behind it. -/
def cutSelector (selector : String) : Option (String × String) :=
  (cutFirst '.' selector.toList).map fun (table, column) => (String.ofList table, String.ofList column)

/-- Which filters are taken up: those on the base table, or those on related
tables. -/
inductive Pass where
  | base
  | related
  deriving DecidableEq

/-- Where filter keys lead. -/
structure Scope where
  base : String
  aliases : Dictionary String
  pass : Pass

namespace Scope

/-- The name by which a table is referred to. -/
def reference (scope : Scope) (table : String) : String := (scope.aliases.get? table).getD table

/-- The column of a key; nothing for a key of the other pass. -/
def resolve (scope : Scope) (key : String) : Option Sql.ColumnRef :=
  let key := Key.canonical key
  match cutSelector key, scope.pass with
  | none, .base => some ⟨some (scope.reference scope.base), key⟩
  | some (table, column), .related => some ⟨some (scope.reference table), column⟩
  | _, _ => none

end Scope
end Polyquery
