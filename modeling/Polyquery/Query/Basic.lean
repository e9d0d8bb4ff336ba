import Polyquery.Json.Basic
import Polyquery.Keyed.Dictionary
import Polyquery.Query.Filter
import Polyquery.Query.Operation
import Polyquery.Query.Schema

/-! Queries: the description of one data operation, independent of any dialect. -/
namespace Polyquery

/-- Where a query goes and what it does there. -/
structure Endpoint where
  datasource : String
  table : String
  operation : Operation
  schema : Option String
  deriving DecidableEq

/-- The requested page and its size, each optional. -/
structure Paging where
  page : Option Nat
  limit : Option Nat
  deriving DecidableEq

/-- The requested page size; zero counts as unset. -/
def Paging.size? (paging : Paging) : Option Nat := paging.limit.filter (0 < ·)

/-- One edge between tables. A direct edge joins the two columns. An edge
through a join table joins the first table's primary column to the join
table's `fromColumn` and the second's to its `toColumn`. -/
structure Relationship where
  fromTable : Option String
  toTable : String
  through : Option String
  fromColumn : String
  toColumn : String
  fromPrimary : Option String
  toPrimary : Option String
  deriving DecidableEq

namespace Relationship

def direct (toTable fromColumn toColumn : String) : Relationship :=
  ⟨none, toTable, none, fromColumn, toColumn, none, none⟩

def via (toTable through fromPrimary fromColumn toPrimary toColumn : String) : Relationship :=
  ⟨none, toTable, some through, fromColumn, toColumn, some fromPrimary, some toPrimary⟩

end Relationship

/-- What is known of the query's table. -/
structure Details where
  table : Option Table
  deriving DecidableEq

/-- A filter that identifies the written row. -/
structure Extra where
  idFilter : Option (Filters Json)
  deriving DecidableEq

/-- What a write writes: one row, or a list of them. -/
inductive Body where
  | row (row : Row)
  | rows (rows : List Row)
  deriving DecidableEq

structure Query where
  endpoint : Endpoint
  fields : Option (List String)
  filters : Option (Filters Json)
  sort : Option (List (String × Direction))
  paging : Option Paging
  relationships : List Relationship
  aliases : Dictionary String
  details : Option Details
  body : Option Body
  extra : Option Extra
  deriving DecidableEq

namespace Query

/-- The query that only names its table and its operation. -/
def plain (table : String) (operation : Operation) : Query where
  endpoint := ⟨"", table, operation, none⟩
  fields := none
  filters := none
  sort := none
  paging := none
  relationships := []
  aliases := .empty
  details := none
  body := none
  extra := none

def operation (query : Query) : Operation := query.endpoint.operation

/-- The name of the table that the query is about. -/
def tableName (query : Query) : String := query.endpoint.table

def table? (query : Query) : Option Table := query.details.bind Details.table

def idFilter? (query : Query) : Option (Filters Json) := query.extra.bind Extra.idFilter

/-- The name by which this query refers to a table. -/
def aliasOf (query : Query) (table : String) : String := (query.aliases.get? table).getD table

/-- One more sort key at the end, also for a field that is already sorted. -/
def sortBy (query : Query) (field : String) (direction : Direction) : Query :=
  { query with sort := some (query.sort.getD [] ++ [(field, direction)]) }

end Query
end Polyquery
