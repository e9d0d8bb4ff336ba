import Polyquery.Wire.Decoder
import Polyquery.Query.Schema

/-! The wire form of tables and their columns. -/
namespace Polyquery.Wire
open Json

/-- Reads a column. -/
def column : Decoder Column := fun document => do
  match ← fields [["type"], ["subtype"], ["externalType"]] document with
  | [type, subtype, nativeType] =>
    some {
      type := ← defaulted .string (fun d => (variant d).map ColumnType.ofName) type
      subtype := ← optional (fun d => (variant d).map ColumnSubtype.ofName) subtype
      nativeType := ← optional string nativeType }
  | _ => none

def ofColumn (column : Column) : Json :=
  object [
    always "type" (.string column.type.name),
    whenSome "subtype" column.subtype fun subtype => .string subtype.name,
    whenSome "externalType" column.nativeType .string]

/-- Reads a table. -/
def table : Decoder Table := fun document => do
  match ← fields [["name"], ["primary"], ["schema"]] document with
  | [name, primary, columns] =>
    some {
      name := ← required string name
      primary := ← defaulted [] (list string) primary
      columns := ← defaulted .empty (dictionary column) columns }
  | _ => none

def ofTable (table : Table) : Json :=
  object [
    always "name" (.string table.name),
    always "primary" (.array (table.primary.map .string)),
    always "schema" (.object (table.columns.entries.map fun (name, column) => (name, ofColumn column)))]

end Polyquery.Wire
