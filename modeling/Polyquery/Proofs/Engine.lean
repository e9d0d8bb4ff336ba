import Polyquery.Proofs.Meaning
import Polyquery.Proofs.Running

/-! A database with one table. Every row has a key, and no two rows have the same.
Statements are carried out as what they say, clause by clause; what differs from
server to server is left open: how a row is judged by a single predicate, what is
put into the columns that an insert leaves out, which key is reported behind it. -/
namespace Polyquery
open Sql

/-! ## Tables -/

/-- What a server knows of its one table, and what it brings along of its own. -/
structure Engine where
  name : String
  schema : Option String
  /-- The column of the key. -/
  key : String
  /-- What counts of a key when two keys are compared. -/
  identity : Value → Value
  /-- Whether a row meets a single predicate. -/
  judge : Dialect → Record Value → Predicate → Truth
  /-- The order of cells. -/
  precedes : Value → Value → Bool
  /-- The row that is stored for the cells given, behind the rows there are. -/
  complete : List (Record Value) → Record Value → Record Value
  /-- The key that is reported behind an insert of rows, if there is one. -/
  report : Dialect → List (Record Value) → Option Int64
  /-- What is said when a statement is refused. -/
  refusal : String
  judge_key : ∀ dialect row table value, value ≠ .null →
    (judge dialect row (.compare ⟨table, key⟩ .equal value) = .yes ↔
      ∃ cell, row.get? key = some cell ∧ cell ≠ .null ∧ identity cell = identity value)
  complete_given : ∀ rows given column cell, given.get? column = some cell →
    (complete rows given).get? column = some cell
  report_key : ∀ dialect row n, report dialect [row] = some n →
    ∃ cell, row.get? key = some cell ∧ identity cell = identity (.int n)

namespace Engine

/-- The key of a row as far as it counts; null is no key. -/
def keyOf? (engine : Engine) (row : Record Value) : Option Value :=
  ((row.get? engine.key).filter fun cell => !cell.isNull).map engine.identity

theorem keyOf?_eq_some {engine : Engine} {row : Record Value} {value : Value} :
    engine.keyOf? row = some value ↔
      ∃ cell, row.get? engine.key = some cell ∧ cell ≠ .null ∧ engine.identity cell = value := by
  have isNull (cell : Value) : cell.isNull = false ↔ cell ≠ .null := by
    cases cell <;> simp [Value.isNull]
  simp [keyOf?, Option.filter_eq_some_iff, isNull, and_assoc]

/-- The rows of the table. -/
structure Contents (engine : Engine) where
  rows : List (Record Value)
  keyed : ∀ row ∈ rows, (engine.keyOf? row).isSome = true
  distinct : (rows.map engine.keyOf?).Nodup

variable {engine : Engine}

@[ext] theorem Contents.ext {a b : engine.Contents} (same : a.rows = b.rows) : a = b := by
  cases a
  cases b
  cases same
  rfl

/-- The rows that do not meet a condition. -/
def Contents.without (contents : engine.Contents) (leaves : Record Value → Bool) :
    engine.Contents where
  rows := contents.rows.filter fun row => !leaves row
  keyed row member := contents.keyed row (List.mem_filter.1 member).1
  distinct := contents.distinct.sublist (List.filter_sublist.map _)

def refused (engine : Engine) : Error := .execution engine.refusal

/-- Rows as the rows of the table, unless a key is missing or there twice. -/
def accept (engine : Engine) (rows : List (Record Value)) : Except Error engine.Contents :=
  if fits : (∀ row ∈ rows, (engine.keyOf? row).isSome = true) ∧ (rows.map engine.keyOf?).Nodup then
    .ok ⟨rows, fits.1, fits.2⟩
  else .error engine.refused

theorem rows_of_accept {rows : List (Record Value)} {contents : engine.Contents}
    (accepted : engine.accept rows = .ok contents) : contents.rows = rows := by
  unfold accept at accepted
  split at accepted
  · cases accepted
    rfl
  · cases accepted

/-! ## Clauses -/

/-- Whether a row meets a condition. Only what is certain counts. -/
def meets (engine : Engine) (dialect : Dialect) (condition : Condition) (row : Record Value) : Bool :=
  condition.isEmpty ||
    condition.value (fun i => (condition.leaves[i]?).elim .unknown (engine.judge dialect row)) 0 = .yes

theorem meets_leaf (engine : Engine) (dialect : Dialect) (op : Connective) {leaf : Predicate}
    (isLeaf : leaf.isLeaf = true) (row : Record Value) :
    engine.meets dialect ⟨op, [leaf]⟩ row = true ↔ engine.judge dialect row leaf = .yes := by
  have leaves : (Condition.mk op [leaf]).leaves = [leaf] := by
    simp [Condition.leaves, leaves_leaf isLeaf]
  have value (assign : Nat → Truth) : (Condition.mk op [leaf]).value assign 0 = assign 0 := by
    simp [Condition.value, partsValue, value_leaf assign 0 isLeaf]
  simp [meets, leaves, value, Condition.isEmpty]

/-- Whether the statement is about this table. -/
def has (engine : Engine) (table : TableRef) : Bool :=
  table.name = engine.name && table.schema = engine.schema

/-- The order of rows under sort keys. -/
def inOrder (engine : Engine) : List SortKey → Record Value → Record Value → Bool
  | [], _, _ => true
  | key :: rest, a, b =>
    let cells := ((a.get? key.column.column).getD .null, (b.get? key.column.column).getD .null)
    let (low, high) := match key.direction with
      | .ascending => cells
      | .descending => cells.swap
    engine.precedes low high || (!engine.precedes high low && engine.inOrder rest a b)

end Engine

/-- A column of a row that is declared under a name. -/
def Sql.ColumnRef.isOf (declared : String) (column : ColumnRef) : Bool := column.table.all (· = declared)

def Sql.Condition.isOf (declared : String) (condition : Condition) : Bool :=
  condition.leaves.all fun leaf => leaf.column?.all (·.isOf declared)

def Sql.Projection.isOf (declared : String) : Projection → Bool
  | .all => true
  | .columns outputs => outputs.all fun output => output.column.isOf declared

/-- The row under a projection. A cast of money changes how an amount is sent, not
the amount. -/
def Sql.Projection.of : Projection → Record Value → Record Value
  | .all, row => row
  | .columns outputs, row =>
    .ofList (outputs.map fun output => (output.name, (row.get? output.column.column).getD .null))

/-- The row as it is sent. -/
def Sql.Projection.shown (projection : Projection) (row : Record Value) : Row :=
  (projection.of row).mapValues Value.toJson

/-- All columns of the clauses are of the one table that they are about. -/
def Sql.Clauses.areOf (declared : String) (clauses : Clauses) : Bool :=
  clauses.joins.isEmpty && clauses.condition.isOf declared &&
    clauses.order.all (·.column.isOf declared) && clauses.projection.isOf declared

/-- The cells that an insert gives, row by row. -/
def Sql.Insert.given (insert : Insert) : List (Record Value) :=
  if insert.columns.isEmpty then [.empty]
  else insert.rows.map fun cells =>
    .ofList ((insert.columns.zip cells).filterMap fun (column, cell) => cell.map (column, ·))

namespace Engine

/-- The clauses of a select, on rows that are declared under a name. -/
def apply (engine : Engine) (dialect : Dialect) (declared : String) (clauses : Clauses)
    (rows : List (Record Value)) : Except Error (List (Record Value)) :=
  if clauses.areOf declared then
    let met := rows.filter (engine.meets dialect clauses.condition)
    let sorted := (met.mergeSort (engine.inOrder clauses.order)).drop (clauses.offset.getD 0)
    let window := clauses.limit.elim sorted sorted.take
    .ok (window.map clauses.projection.of)
  else .error engine.refused

/-- The rows of a select. -/
def evaluate (engine : Engine) (dialect : Dialect) (rows : List (Record Value)) :
    Select → Except Error (List (Record Value))
  | .table source clauses =>
    if engine.has source then engine.apply dialect source.reference clauses rows
    else .error engine.refused
  | .derived inner label clauses => do
    let found ← engine.evaluate dialect rows inner
    engine.apply dialect label clauses found

/-! ## Statements -/

variable {engine : Engine}

/-- One more row. -/
def append (contents : engine.Contents) (given : Record Value) : Except Error engine.Contents :=
  engine.accept (contents.rows ++ [engine.complete contents.rows given])

/-- What is sent behind an insert of rows. -/
def inserted (engine : Engine) (dialect : Dialect) (write : Insert) (rows : List (Record Value)) :
    Response where
  rows := match write.returning with
    | some projection => rows.map projection.shown
    | none =>
      if write.selectsKey && dialect.keySelection.isSome then
        [.ofList [("id", (engine.report dialect rows).elim .null fun n => Value.toJson (.int n))]]
      else []
  lastKey := if dialect.generatedKey = .reported then (engine.report dialect rows).map .int else none

/-- What is sent behind an update or a delete of rows. -/
def affected (returning : Option Projection) (rows : List (Record Value)) : Response :=
  ⟨returning.elim [] fun projection => rows.map projection.shown, none⟩

def assign (assignments : List (String × Value)) (row : Record Value) : Record Value :=
  assignments.foldl (fun row (column, cell) => row.insert column cell) row

/-- The table with some of its rows changed. -/
def change (contents : engine.Contents) (changes : Record Value → Bool)
    (f : Record Value → Record Value) : Except Error engine.Contents :=
  engine.accept (contents.rows.map fun row => if changes row then f row else row)

/-- The answer to a statement, and the table behind it. A statement that fails
changes nothing. -/
def serve (dialect : Dialect) (contents : engine.Contents) :
    Statement → Except Error Response × engine.Contents
  | .select read => ((engine.evaluate dialect contents.rows read).map fun found =>
      ⟨found.map Projection.all.shown, none⟩, contents)
  | .insert write =>
    if engine.has write.table then
      match write.given.foldlM append contents with
      | .error error => (.error error, contents)
      | .ok after =>
        (.ok (engine.inserted dialect write (after.rows.drop contents.rows.length)), after)
    else (.error engine.refused, contents)
  | .update write =>
    if engine.has write.table && write.condition.isOf write.table.reference then
      let meets := engine.meets dialect write.condition
      match change contents meets (assign write.assignments) with
      | .error error => (.error error, contents)
      | .ok after =>
        (.ok (affected write.returning ((contents.rows.filter meets).map (assign write.assignments))),
          after)
    else (.error engine.refused, contents)
  | .delete write =>
    if engine.has write.table && write.condition.isOf write.table.reference then
      let meets := engine.meets dialect write.condition
      (.ok (affected write.returning (contents.rows.filter meets)), contents.without meets)
    else (.error engine.refused, contents)

end Engine
end Polyquery
