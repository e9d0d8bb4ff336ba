import Polyquery.Sql.Statement

/-! Rendering. A statement is written from left to right by its clauses; on the way
the placeholders are counted, and the value behind each is put behind the others.
What binds no value is written by its tokens. -/
namespace Polyquery
open Sql

/-! ## Text in place of tokens -/

namespace Sql

/-- Parts of text with a separator between them. -/
def joined (separator : String) (parts : List (List Char)) : List Char :=
  Text.intersperse separator.toList parts

/-- The text of tokens none of which is a bound value. -/
def plain (dialect : Dialect) (sql : Sql) : List Char := writeFrom dialect 1 sql

def Connective.joiner : Connective → String
  | .and => " AND "
  | .or => " OR "

end Sql

namespace Dialect

/-- The text of a table under an alias. -/
def aliasedText (dialect : Dialect) (target name : List Char) : List Char :=
  match dialect with
  | .oracle => target ++ ' ' :: name
  | .postgres | .mysql | .mariadb | .sqlServer => target ++ " AS ".toList ++ name

/-- The text of a match that ignores case. -/
def matchingText (dialect : Dialect) (column pattern : List Char) : List Char :=
  if dialect.ignoresCase then column ++ " ILIKE ".toList ++ pattern
  else "LOWER(".toList ++ column ++ ") LIKE ".toList ++ pattern

def insertionText (target columns values : List Char) : List Char :=
  "INTO ".toList ++ target ++ " (".toList ++ columns ++ ") VALUES ".toList ++ values

/-- The text of an insert of row tuples. -/
def insertRowsText (dialect : Dialect) (target columns : List Char) (tuples : List (List Char)) :
    List Char :=
  if dialect = .oracle ∧ 1 < tuples.length then
    "INSERT ALL".toList ++ tuples.flatMap (fun tuple => ' ' :: insertionText target columns tuple) ++
      " SELECT 1 FROM DUAL".toList
  else "INSERT ".toList ++ insertionText target columns (joined ", " tuples)

end Dialect

namespace Sql

/-! ## The state -/

/-- What is known of the placeholders that are written already. -/
structure Params where
  /-- The number of the last placeholder. -/
  index : Nat
  /-- The value behind each placeholder, in their order. -/
  values : Array Value

def Params.none : Params := ⟨0, #[]⟩

/-- Text, or several texts, whose placeholders go on from those written already. -/
abbrev Rendering := StateM Params

/-- Bind a value to the next placeholder. -/
def placed (dialect : Dialect) (value : Value) : Rendering (List Char) :=
  modifyGet fun params =>
    (dialect.placeholder (params.index + 1), ⟨params.index + 1, params.values.push value⟩)

/-! ## Conditions -/

mutual
/-- A predicate with the values it compares with. -/
def Predicate.render (dialect : Dialect) : Predicate → Rendering (List Char)
  | .oneOf _ [] => return "1 = 0".toList
  | .oneOf column values => do
    let params ← values.mapM (placed dialect)
    return plain dialect column.sql ++ " IN (".toList ++ joined ", " params ++ [')']
  | .compare column op value => do
    let param ← placed dialect value
    return plain dialect column.sql ++ ' ' :: op.mark.text.toList ++ ' ' :: param
  | .between column low high => do
    let low ← placed dialect low
    let high ← placed dialect high
    return plain dialect column.sql ++ " BETWEEN ".toList ++ low ++ " AND ".toList ++ high
  | .isNull column negated =>
    return plain dialect column.sql ++ (if negated then " IS NOT NULL" else " IS NULL").toList
  | .like column pattern => do
    let param ← placed dialect pattern
    return dialect.matchingText (plain dialect column.sql) param
  | .containsJson column document => do
    let param ← placed dialect document
    return plain dialect column.sql ++ "::jsonb @> ".toList ++ param ++ "::jsonb".toList
  | .hasAny column values => do
    let params ← values.mapM (placed dialect)
    return plain dialect column.sql ++ "::jsonb ?| ARRAY[".toList ++ joined ", " params ++ [']']
  | .jsonFunction column function document => do
    let param ← placed dialect document
    return function.word.text.toList ++ '(' :: joined ", " [plain dialect column.sql, param] ++ [')']
  | .group op parts => do
    match ← renderParts dialect parts with
    | [only] => return only
    | several => return '(' :: joined op.joiner several ++ [')']
  | .not inner => do
    let text ← inner.render dialect
    return "NOT ".toList ++ if inner.parenthesizes then text else '(' :: text ++ [')']

/-- Each of some predicates, from left to right. -/
def renderParts (dialect : Dialect) : List Predicate → Rendering (List (List Char))
  | [] => return []
  | part :: rest => do
    let text ← part.render dialect
    let others ← renderParts dialect rest
    return text :: others
end

/-- The condition behind `WHERE`, with a blank in front; nothing without one. -/
def Condition.render (dialect : Dialect) (condition : Condition) : Rendering (List Char) := do
  if condition.isEmpty then return []
  else
    let parts ← renderParts dialect condition.parts
    return " WHERE ".toList ++ joined condition.op.joiner parts

/-! ## Statements -/

/-- The select around the rendering of its source. -/
def Clauses.render (dialect : Dialect) (clauses : Clauses) (source : Rendering (List Char)) :
    Rendering (List Char) := do
  let front := "SELECT ".toList ++
    plain dialect (dialect.limitInFront clauses.limit clauses.offset) ++
    plain dialect clauses.projection.sql ++ " FROM ".toList
  let source ← source
  let joins := clauses.joins.flatMap fun join => ' ' :: plain dialect (join.sql dialect)
  let condition ← clauses.condition.render dialect
  return front ++ source ++ joins ++ condition ++ plain dialect (orderSql clauses.order) ++
    plain dialect (dialect.limitBehind clauses.limit clauses.offset (!clauses.order.isEmpty))

def Select.render (dialect : Dialect) : Select → Rendering (List Char)
  | .table source clauses => clauses.render dialect (return plain dialect (source.sql dialect))
  | .derived inner label clauses => clauses.render dialect do
    let text ← inner.render dialect
    return dialect.aliasedText ('(' :: text ++ [')']) (dialect.quoteName label)

/-- A cell of an inserted row. -/
def Insert.renderCell (dialect : Dialect) : Option Value → Rendering (List Char)
  | some value => placed dialect value
  | none => return plain dialect dialect.missingCell

/-- The values of a row in parentheses. -/
def Insert.renderTuple (dialect : Dialect) (row : List (Option Value)) : Rendering (List Char) := do
  let cells ← row.mapM (Insert.renderCell dialect)
  return '(' :: joined ", " cells ++ [')']

/-- An insert up to the values of its rows. -/
def Insert.renderRows (dialect : Dialect) (insert : Insert) : Rendering (List Char) := do
  let target := plain dialect (insert.table.sql dialect)
  if insert.columns.isEmpty then
    return "INSERT INTO ".toList ++ target ++ plain dialect dialect.defaultRow
  else
    let tuples ← insert.rows.mapM (Insert.renderTuple dialect)
    return dialect.insertRowsText target (joined ", " (insert.columns.map dialect.quoteName)) tuples

def Insert.render (dialect : Dialect) (insert : Insert) : Rendering (List Char) := do
  let rows ← insert.renderRows dialect
  let selection := match insert.selectsKey, dialect.keySelection with
    | true, some selection => "; ".toList ++ plain dialect selection
    | _, _ => []
  return rows ++ plain dialect (returningSql insert.returning) ++ selection

/-- A column that an update sets. -/
def Update.renderAssignment (dialect : Dialect) (assignment : String × Value) :
    Rendering (List Char) := do
  let param ← placed dialect assignment.2
  return dialect.quoteName assignment.1 ++ " = ".toList ++ param

def Update.render (dialect : Dialect) (update : Update) : Rendering (List Char) := do
  let assignments ← update.assignments.mapM (Update.renderAssignment dialect)
  let condition ← update.condition.render dialect
  return "UPDATE ".toList ++ plain dialect (update.table.sql dialect) ++ " SET ".toList ++
    joined ", " assignments ++ condition ++ plain dialect (returningSql update.returning)

def Delete.render (dialect : Dialect) (delete : Delete) : Rendering (List Char) := do
  let condition ← delete.condition.render dialect
  return "DELETE FROM ".toList ++ plain dialect (delete.table.sql dialect) ++ condition ++
    plain dialect (returningSql delete.returning)

def Statement.render (dialect : Dialect) : Statement → Rendering (List Char)
  | .select read => read.render dialect
  | .insert write => write.render dialect
  | .update write => write.render dialect
  | .delete write => write.render dialect

end Sql
end Polyquery
