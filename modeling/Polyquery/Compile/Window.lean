import Polyquery.Error
import Polyquery.Query.Basic
import Polyquery.Sql.Select

/-! Pages and sorts of a read. -/
namespace Polyquery
open Sql

/-- A window of rows; an offset of zero is left out. -/
structure Window where
  limit : Nat
  offset : Option Nat
  deriving DecidableEq

/-- One more than the greatest row number that a statement can name. -/
def rowNumbers : Nat := 0x10000000000000000

namespace Window

/-- The window of a page request. Pages count from one, and page zero is the
first page too. Without a page size the window is the row cap. -/
def ofPaging (paging : Option Paging) (cap : Nat) : Except Error Window :=
  match paging.bind Paging.size? with
  | none => .ok ⟨cap, none⟩
  | some limit =>
    match paging.bind Paging.page with
    | none => .ok ⟨limit, none⟩
    | some page =>
      let offset := (page - 1) * limit
      if rowNumbers ≤ offset then .error (.unusable (.pageOutOfRange page limit))
      else .ok ⟨limit, if offset = 0 then none else some offset⟩

end Window

/-- The rows of a select that lie in a window. -/
def Sql.Select.within (select : Select) (window : Window) : Select :=
  match window.offset with
  | some offset => (select.limit window.limit).offset offset
  | none => select.limit window.limit

/-- The name that sorted columns are qualified with: the alias of the described
table, or of the query's table if none is described. -/
def Query.sortReference (query : Query) : String :=
  query.aliasOf ((query.table?.map Table.name).getD query.tableName)

/-- The sort of a query. Where paging needs an order, a limited read without a
sort is ordered by the key of its table. -/
def Query.order (query : Query) (dialect : Dialect) : List SortKey :=
  match query.sort.getD [] with
  | [] =>
    match query.table?.bind Table.key? with
    | some key =>
      if (query.paging.bind Paging.size?).isSome && dialect.ordersPages then
        [⟨⟨some query.sortReference, key⟩, .ascending⟩]
      else []
    | none => []
  | keys => keys.map fun (field, direction) => ⟨⟨some query.sortReference, field⟩, direction⟩

/-- The select in the order of a query. -/
def Sql.Select.sorted (select : Select) (query : Query) (dialect : Dialect) : Select :=
  (query.order dialect).foldl Select.orderBy select

end Polyquery
