import Polyquery.Json.Reader
import Polyquery.Query.Schema

/-! JSON columns come back from a database as text. For every column that the
table stores as JSON text, the text cells of a result are parsed, under the
column's own name and under the name qualified with the table. -/
namespace Polyquery

/-- A cell of a JSON column whose text is no JSON: its row, and its key there. What a reader
has against the text is not kept. -/
structure CellFault where
  row : Nat
  column : String
  deriving DecidableEq

/-- Parse the text cell under a key. Malformed text stays and is reported. -/
def parseCell (index : Nat) (state : Row × List CellFault) (key : String) : Row × List CellFault :=
  match state.1.get? key with
  | some (.string text) =>
    match Json.parse? text with
    | some value => (state.1.insert key value, state.2)
    | none => (state.1, state.2 ++ [⟨index, key⟩])
  | _ => state

/-- The keys under which a table's JSON columns may come back, in the order in
which they are parsed. -/
def Table.jsonKeys (table : Table) : List String :=
  table.jsonColumns.flatMap fun column => [table.name ++ "." ++ column, column]

/-- A row with its JSON cells parsed. -/
def Table.parseRow (table : Table) (index : Nat) (row : Row) : Row × List CellFault :=
  table.jsonKeys.foldl (parseCell index) (row, [])

/-- Rows with their JSON cells parsed, and the malformed cells row by row. -/
def Table.materialize (table : Table) (rows : List Row) : List Row × List CellFault :=
  let parsed := rows.mapIdx table.parseRow
  (parsed.map Prod.fst, parsed.flatMap Prod.snd)

end Polyquery
