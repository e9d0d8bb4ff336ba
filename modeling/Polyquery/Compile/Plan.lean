import Polyquery.Compile.Filtering
import Polyquery.Compile.Joining
import Polyquery.Compile.Window
import Polyquery.Sql.Statement

/-! The statement of a query, one builder for each operation. Nothing is written
here; a plan is a statement value. -/
namespace Polyquery
open Sql

namespace Query

/-- The table of the endpoint under its real name. -/
def target (query : Query) : TableRef := ⟨query.tableName, query.endpoint.schema, none⟩

/-- The columns that a query asks for, each under the name it asks with;
everything if it asks for none. -/
def projection (query : Query) (dialect : Dialect) : Projection :=
  match query.fields.getD [] with
  | [] => .all
  | fields =>
    .columns (fields.map fun field =>
      let (column, name) : ColumnRef × String := match cutSelector field with
        | some (table, name) => (⟨some table, name⟩, name)
        | none => (⟨none, field⟩, field)
      let known := query.table?.bind fun table => table.columns.get? name
      ⟨column, field, dialect.castsMoney && known.any Column.isMoney⟩)

/-- The condition of the query's filters in one pass. -/
def condition (query : Query) (dialect : Dialect) (pass : Pass) (aliases : Dictionary String) :
    Condition :=
  match query.filters with
  | some filters => filters.normalized.condition dialect ⟨query.tableName, aliases, pass⟩
  | none => .none

/-- The page of the base table: filtered, sorted and cut to the window before
anything is joined, so that joins cannot change the page. -/
def page (query : Query) (dialect : Dialect) (window : Window) : Select :=
  let source := query.target.withAlias (query.aliases.get? query.tableName)
  let paged := (Select.ofTable source).within window
  (paged.filter (query.condition dialect .base query.aliases)).sorted query dialect

/-- A read: the page as a derived table, then the requested columns, the joins
under the row cap and the filters on joined tables. -/
def select (query : Query) (dialect : Dialect) (cap : Nat) : Except Error Select := do
  let window ← Window.ofPaging query.paging cap
  let outer := (Select.ofSelect (query.page dialect window) (query.aliasOf query.tableName)).project
    (query.projection dialect)
  let outer := if dialect.sortsOutside then outer.sorted query dialect else outer
  let outer ← outer.joined ⟨query.tableName, query.endpoint.schema, query.aliases⟩
    query.relationships cap
  .ok (outer.filter (query.condition dialect .related query.aliases))

/-- The insert of one row. Nulls are left to the column defaults. -/
def insert (query : Query) (dialect : Dialect) (returning : Bool) : Except Error Insert := do
  let values ← match query.body with
    | some (.row row) => .ok (Row.values row |>.filter fun cell => !cell.2.isNull)
    | some (.rows _) => .error (.unusable .createOfList)
    | none => .ok []
  if values.isEmpty && !dialect.insertsDefaults then
    .error (.unusable (.createOfNothing dialect))
  else
    .ok { (Insert.into query.target).ofRow values with
      returning := if returning then some .all else none
      selectsKey := !returning && dialect.generatedKey == .selected }

/-- The insert of several rows. -/
def bulkInsert (query : Query) : Except Error Insert :=
  match query.body with
  | some (.rows []) => .error (.unusable .bulkOfNothing)
  | some (.rows rows) => .ok ((Insert.into query.target).ofRows (rows.map Row.values))
  | _ => .error (.unusable .bulkWithoutList)

/-- The update of a row's fields. Nulls are written. -/
def update (query : Query) (dialect : Dialect) (returning : Bool) : Except Error Update := do
  let assignments ← match query.body with
    | some (.row row) => .ok (Row.values row)
    | some (.rows _) => .error (.unusable .updateOfList)
    | none => .ok []
  if assignments.isEmpty then .error (.unusable .updateOfNothing)
  else
    .ok { (Update.of query.target).filter (query.condition dialect .base .empty) with
      assignments
      returning := if returning then some .all else none }

/-- The delete. What it returns are the requested columns. -/
def delete (query : Query) (dialect : Dialect) (returning : Bool) : Delete :=
  { (Delete.of query.target).filter (query.condition dialect .base .empty) with
    returning := if returning then some (query.projection dialect) else none }

/-- The statement of a query. Table operations have none. -/
def plan (query : Query) (dialect : Dialect) (cap : Nat) (returning : Bool) :
    Except Error Statement :=
  match query.operation with
  | .read => (query.select dialect cap).map .select
  | .create => (query.insert dialect returning).map .insert
  | .bulkCreate => query.bulkInsert.map .insert
  | .update => (query.update dialect returning).map .update
  | .delete => .ok (.delete (query.delete dialect returning))
  | .createTable | .updateTable | .deleteTable => .error (.unsupported query.operation)

end Query
end Polyquery
