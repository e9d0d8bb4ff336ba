import Polyquery.Sql.Select
import Polyquery.Sql.Write

/-! Statements: selects and the three kinds of writes. -/
namespace Polyquery.Sql

/-- The returning clause of a write, with a blank in front; nothing without
one. -/
def returningSql : Option Projection → Sql
  | some projection => .space :: .word .returning :: .space :: projection.sql
  | none => []

/-- An insert of rows over one list of columns. A cell without a value takes
the default of its column. -/
structure Insert where
  table : TableRef
  columns : List String
  rows : List (List (Option Value))
  returning : Option Projection
  selectsKey : Bool

namespace Insert

def into (table : TableRef) : Insert := ⟨table, [], [], none, false⟩

/-- One row of columns and values. -/
def ofRow (insert : Insert) (row : List (String × Value)) : Insert :=
  { insert with columns := row.map Prod.fst, rows := [row.map fun cell => some cell.2] }

/-- The columns of all rows, in order of first appearance. -/
def columnsOf (rows : List (List (String × Value))) : List String :=
  rows.foldl (fun columns row =>
    row.foldl (fun columns (column, _) =>
      if columns.contains column then columns else columns ++ [column]) columns) []

/-- Take the first cell of a column out of a row; the last cell of the row
moves into the gap. -/
def takeCell (column : String) (row : List (String × Value)) :
    Option Value × List (String × Value) :=
  match row.findIdx? fun cell => cell.1 == column with
  | some index =>
    match row[index]?, row.getLast? with
    | some cell, some last => (some cell.2, (row.set index last).dropLast)
    | _, _ => (none, row)
  | none => (none, row)

/-- The cells of a row in the order of the columns. -/
def cellsOf : List String → List (String × Value) → List (Option Value)
  | [], _ => []
  | column :: columns, row =>
    let (cell, rest) := takeCell column row
    cell :: cellsOf columns rest

/-- Several rows, over the columns of all of them. -/
def ofRows (insert : Insert) (rows : List (List (String × Value))) : Insert :=
  let columns := columnsOf rows
  { insert with columns, rows := rows.map (cellsOf columns) }

/-- The values of a row in parentheses. -/
def tupleSql (dialect : Dialect) (row : List (Option Value)) : Sql :=
  parenthesized (commas (row.map fun
    | some value => [.bound value]
    | none => dialect.missingCell))

def sql (dialect : Dialect) (insert : Insert) : Sql :=
  let target := insert.table.sql dialect
  let body :=
    if insert.columns.isEmpty then
      words [.insert, .into] ++ .space :: target ++ dialect.defaultRow
    else
      dialect.insertRows target (commas (insert.columns.map fun column => [.name column]))
        (insert.rows.map (tupleSql dialect))
  let selection : Sql := match insert.selectsKey, dialect.keySelection with
    | true, some selection => .mark .semicolon :: .space :: selection
    | _, _ => []
  body ++ returningSql insert.returning ++ selection

end Insert

/-- An update of the rows that meet a condition. -/
structure Update where
  table : TableRef
  assignments : List (String × Value)
  condition : Condition
  returning : Option Projection

namespace Update

def of (table : TableRef) : Update := ⟨table, [], .none, none⟩

def filter (update : Update) (condition : Condition) : Update :=
  { update with condition := update.condition.and condition }

def sql (dialect : Dialect) (update : Update) : Sql :=
  .word .update :: .space :: update.table.sql dialect ++ .space :: .word .set :: .space ::
    commas (update.assignments.map fun (column, value) =>
      [.name column, .space, .mark .equal, .space, .bound value]) ++
    update.condition.clause dialect ++ returningSql update.returning

end Update

/-- A delete of the rows that meet a condition. -/
structure Delete where
  table : TableRef
  condition : Condition
  returning : Option Projection

namespace Delete

def of (table : TableRef) : Delete := ⟨table, .none, none⟩

def filter (delete : Delete) (condition : Condition) : Delete :=
  { delete with condition := delete.condition.and condition }

def sql (dialect : Dialect) (delete : Delete) : Sql :=
  words [.delete, .from] ++ .space :: delete.table.sql dialect ++
    delete.condition.clause dialect ++ returningSql delete.returning

end Delete

inductive Statement where
  | select (read : Select)
  | insert (write : Insert)
  | update (write : Update)
  | delete (write : Delete)

namespace Statement

def sql (dialect : Dialect) : Statement → Sql
  | .select read => read.sql dialect
  | .insert write => write.sql dialect
  | .update write => write.sql dialect
  | .delete write => write.sql dialect

/-- Whether running the statement yields rows. -/
def yieldsRows (dialect : Dialect) : Statement → Bool
  | .select _ => true
  | .insert write => write.returning.isSome || (write.selectsKey && dialect.keySelection.isSome)
  | .update write => write.returning.isSome
  | .delete write => write.returning.isSome

end Statement
end Polyquery.Sql
