import Polyquery.Query.Dialect
import Polyquery.Sql.Token

/-! Where the grammars of the dialects differ: table aliases, patterns that
ignore case, row limits and inserts. -/
namespace Polyquery.Dialect
open Sql

/-- A table under an alias. -/
def aliased (dialect : Dialect) (target name : Sql) : Sql :=
  match dialect with
  | .oracle => target ++ .space :: name
  | .postgres | .mysql | .mariadb | .sqlServer => target ++ .space :: .word .as :: .space :: name

/-- A match of a column with a pattern. Without an operator that ignores case
the column is lower-cased, and the pattern has to be lower-case already. -/
def matching (dialect : Dialect) (column pattern : Sql) : Sql :=
  if dialect.ignoresCase then column ++ .space :: .word .ilike :: .space :: pattern
  else .word .lower :: parenthesized column ++ .space :: .word .like :: .space :: pattern

/-- The row limit right behind `SELECT`. -/
def limitInFront (dialect : Dialect) (limit offset : Option Nat) : Sql :=
  match dialect, limit, offset with
  | .sqlServer, some n, none => .word .top :: .space :: parenthesized [.number n] ++ [.space]
  | _, _, _ => []

/-- `OFFSET n ROWS`, with a blank in front. -/
def skipRows (offset : Option Nat) : Sql :=
  match offset with
  | some n => [.space, .word .offset, .space, .number n, .space, .word .rows]
  | none => []

/-- `FETCH NEXT n ROWS ONLY`, with a blank in front. -/
def fetchRows (limit : Option Nat) : Sql :=
  match limit with
  | some n => .space :: words [.fetch, .next] ++ .space :: .number n :: .space :: words [.rows, .only]
  | none => []

/-- The row limit at the end of a query. SQL Server allows an offset only behind
an order, so an unordered query gets a void one. -/
def limitBehind (dialect : Dialect) (limit offset : Option Nat) (ordered : Bool) : Sql :=
  match dialect with
  | .postgres | .mysql | .mariadb =>
    (match limit with
      | some n => [.space, .word .limit, .space, .number n]
      | none => []) ++
    (match offset with
      | some n => [.space, .word .offset, .space, .number n]
      | none => [])
  | .sqlServer =>
    match offset with
    | none => []
    | some n =>
      (if ordered then []
        else .space :: words [.order, .by] ++ .space :: parenthesized (words [.select, .null])) ++
      skipRows (some n) ++ fetchRows limit
  | .oracle => skipRows offset ++ fetchRows limit

/-- What stands for the columns and values of an insert that names none. -/
def defaultRow : Dialect → Sql
  | .mysql | .mariadb => .space :: parenthesized [] ++ .space :: .word .values :: .space :: parenthesized []
  | .postgres | .sqlServer | .oracle => .space :: words [.default, .values]

/-- The cell of a column that a row of several has no value for. -/
def missingCell : Dialect → Sql
  | .oracle => [.word .null]
  | .postgres | .mysql | .mariadb | .sqlServer => [.word .default]

/-- The target, columns and values of an insert. -/
def insertion (target columns values : Sql) : Sql :=
  .word .into :: .space :: target ++ .space :: parenthesized columns ++
    .space :: .word .values :: .space :: values

/-- An insert of row tuples. Oracle has no list of tuples, so there several rows
are several insertions of one statement. -/
def insertRows (dialect : Dialect) (target columns : Sql) (tuples : List Sql) : Sql :=
  if dialect = .oracle ∧ 1 < tuples.length then
    words [.insert, .all] ++ tuples.flatMap (fun tuple => .space :: insertion target columns tuple) ++
      .space :: .word .select :: .space :: .number 1 :: .space :: words [.from, .dual]
  else .word .insert :: .space :: insertion target columns (commas tuples)

/-- The statement that selects the key of the row just inserted. -/
def keySelection : Dialect → Option Sql
  | .sqlServer =>
    some (.word .select :: .space :: .word .scopeIdentity :: parenthesized [] ++
      .space :: words [.as, .id])
  | .postgres | .mysql | .mariadb | .oracle => none

end Polyquery.Dialect
