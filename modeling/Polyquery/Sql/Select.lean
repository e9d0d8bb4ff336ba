import Polyquery.Query.Operation
import Polyquery.Sql.Condition

/-! Select statements over a table or over another select. -/
namespace Polyquery.Sql

/-- A table where a statement declares it. -/
structure TableRef where
  name : String
  schema : Option String
  label : Option String
  deriving DecidableEq

namespace TableRef

/-- The table under an alias, unless the alias is its own name. -/
def withAlias (table : TableRef) (label : Option String) : TableRef :=
  { table with label := label.filter (· != table.name) }

/-- The name that qualifies the columns of the table. -/
def reference (table : TableRef) : String := table.label.getD table.name

def sql (dialect : Dialect) (table : TableRef) : Sql :=
  let target : Sql := match table.schema with
    | some schema => [.name schema, .mark .dot, .name table.name]
    | none => [.name table.name]
  match table.label with
  | some label => dialect.aliased target [.name label]
  | none => target

end TableRef

/-- A left join on the disjunction of column equalities. -/
structure Join where
  table : TableRef
  on : List (ColumnRef × ColumnRef)
  deriving DecidableEq

def Join.sql (dialect : Dialect) (join : Join) : Sql :=
  words [.left, .join] ++ .space :: join.table.sql dialect ++ .space :: .word .on :: .space ::
    Connective.or.join (join.on.map fun (left, right) =>
      left.sql ++ .space :: .mark .equal :: .space :: right.sql)

structure SortKey where
  column : ColumnRef
  direction : Direction
  deriving DecidableEq

def SortKey.sql (key : SortKey) : Sql :=
  key.column.sql ++
    [.space, .word (match key.direction with | .ascending => .ascending | .descending => .descending)]

/-- A column of the result under its output name. -/
structure Output where
  column : ColumnRef
  name : String
  castsMoney : Bool
  deriving DecidableEq

def Output.sql (output : Output) : Sql :=
  output.column.sql ++
    (if output.castsMoney then [.mark .cast, .word .money, .mark .cast, .word .numeric] else []) ++
    [.space, .word .as, .space, .name output.name]

inductive Projection where
  | all
  | columns (outputs : List Output)
  deriving DecidableEq

def Projection.sql : Projection → Sql
  | .all => [.mark .star]
  | .columns outputs => commas (outputs.map Output.sql)

/-- Everything a select says besides its source. -/
structure Clauses where
  projection : Projection
  joins : List Join
  condition : Condition
  order : List SortKey
  limit : Option Nat
  offset : Option Nat

/-- The clauses that ask for everything. -/
def Clauses.none : Clauses := ⟨.all, [], .none, [], Option.none, Option.none⟩

/-- The order, with a blank in front; nothing without one. -/
def orderSql (order : List SortKey) : Sql :=
  if order.isEmpty then []
  else .space :: words [.order, .by] ++ .space :: commas (order.map SortKey.sql)

/-- The select around the tokens of its source. -/
def Clauses.sql (dialect : Dialect) (clauses : Clauses) (source : Sql) : Sql :=
  .word .select :: .space :: dialect.limitInFront clauses.limit clauses.offset ++
    clauses.projection.sql ++ .space :: .word .from :: .space :: source ++
    clauses.joins.flatMap (fun join => .space :: join.sql dialect) ++
    clauses.condition.clause dialect ++ orderSql clauses.order ++
    dialect.limitBehind clauses.limit clauses.offset (!clauses.order.isEmpty)

/-- A select over a table, or over the rows of another select under a name. -/
inductive Select where
  | table (source : TableRef) (clauses : Clauses)
  | derived (inner : Select) (label : String) (clauses : Clauses)

namespace Select

def ofTable (source : TableRef) : Select := .table source .none

/-- The rows of a select as the source of another one. -/
def ofSelect (inner : Select) (label : String) : Select := .derived inner label .none

def clauses : Select → Clauses
  | .table _ clauses => clauses
  | .derived _ _ clauses => clauses

/-- The select with other clauses over the same source. -/
def mapClauses (f : Clauses → Clauses) : Select → Select
  | .table source clauses => .table source (f clauses)
  | .derived inner label clauses => .derived inner label (f clauses)

def project (select : Select) (projection : Projection) : Select :=
  select.mapClauses fun clauses => { clauses with projection }

def join (select : Select) (join : Join) : Select :=
  select.mapClauses fun clauses => { clauses with joins := clauses.joins ++ [join] }

def filter (select : Select) (condition : Condition) : Select :=
  select.mapClauses fun clauses => { clauses with condition := clauses.condition.and condition }

def orderBy (select : Select) (key : SortKey) : Select :=
  select.mapClauses fun clauses => { clauses with order := clauses.order ++ [key] }

def limit (select : Select) (n : Nat) : Select :=
  select.mapClauses fun clauses => { clauses with limit := some n }

def offset (select : Select) (n : Nat) : Select :=
  select.mapClauses fun clauses => { clauses with offset := some n }

def sql (dialect : Dialect) : Select → Sql
  | .table source clauses => clauses.sql dialect (source.sql dialect)
  | .derived inner label clauses =>
    clauses.sql dialect (dialect.aliased (parenthesized (inner.sql dialect)) [.name label])

end Select
end Polyquery.Sql
