import Polyquery.Command.Invocation
import Polyquery.Compile.Compiled
import Polyquery.Execute.Conversation

/-! What the commands print. Every text here is made of whole lines. -/
namespace Polyquery.Command
open Text

/-- A text with blanks behind it, up to a width in characters. -/
def padRight (width : Nat) (text : List Char) : List Char :=
  text ++ List.replicate (width - text.length) ' '

/-- Lines, each of them ended. -/
def lines (texts : List (List Char)) : String := String.ofList (texts.flatMap (· ++ ['\n']))

namespace Listing

/-- A cell as it stands in a table. -/
def cell : Json → List Char
  | .null => "NULL".toList
  | .string s => s.toList
  | json => json.compact.toList

/-- The cell of a row under a column, blank if there is none. -/
def cellOf (row : Row) (column : String) : List Char := (row.get? column).elim [] cell

/-- The width of a column: that of its widest cell, and at least the number of
bytes of its name. -/
def width (rows : List Row) (column : String) : Nat :=
  rows.foldl (fun widest row => max widest (cellOf row column).length) column.utf8ByteSize

/-- Rows under the columns of the first one. -/
def table (rows : List Row) : String :=
  let columns := ((rows.headD .empty).keys).map fun column => (column, width rows column)
  let line := fun (texts : String → List Char) =>
    intersperse " │ ".toList (columns.map fun (column, width) => padRight width (texts column))
  let rule := intersperse "─┼─".toList (columns.map fun (_, width) => List.replicate width '─')
  lines (line String.toList :: rule :: rows.map (fun row => line (cellOf row)) ++
    [[], (toString rows.length ++ " row(s) returned").toList])

/-- Rows as they are printed in a format. -/
def rows (format : Format) (rows : List Row) : String :=
  if rows.isEmpty then lines ["(no results)".toList]
  else
    match format with
    | .json => lines [(Json.array (rows.map .ofRecord)).indented.toList]
    | .table => table rows

/-- What a query that was run hands back. -/
def outcome (format : Format) (operation : Operation) : Outcome → String
  | .rows found _ => rows format found
  | .row found =>
    if found.isEmpty then lines [("✓ " ++ operation.name ++ " (row not returned)").toList]
    else rows format [found]
  | .nothing => lines [("✓ " ++ operation.name).toList]

/-- A compiled statement as JSON. -/
def statementJson (statement : Compiled) : Json :=
  .object [
    ("sql", .string statement.text),
    ("bindings", .array (statement.bindings.map Value.tagged)),
    ("operation", .string statement.operation.name),
    ("returns_rows", .bool statement.yieldsRows)]

/-- The bindings of a statement, each behind its placeholder. -/
def bindings (dialect : Dialect) (values : List Value) : List (List Char) :=
  values.mapIdx fun index value =>
    "  ".toList ++ dialect.placeholder (index + 1) ++ " = ".toList ++ value.display.toList

/-- A compiled statement as it is printed in a format. -/
def statement (format : Format) (dialect : Dialect) (statement : Compiled) : String :=
  match format with
  | .json => lines [(statementJson statement).indented.toList]
  | .table =>
    lines ([("Dialect: " ++ dialect.name).toList, "Generated SQL:".toList, statement.text.toList] ++
      if statement.bindings.isEmpty then []
      else [] :: "Bindings:".toList :: bindings dialect statement.bindings)

/-- How a dialect cuts a window out of its rows. -/
def paging : Dialect → String
  | .postgres | .mysql | .mariadb => "LIMIT / OFFSET"
  | .sqlServer => "TOP / OFFSET FETCH"
  | .oracle => "OFFSET FETCH"

/-- A line of the reference: four columns of fixed width, and a last one. -/
def referenceLine (name identifier placeholder paging returning : List Char) : List Char :=
  intersperse [' '] [padRight 10 name, padRight 12 identifier, padRight 12 placeholder,
    padRight 18 paging, returning]

/-- The reference of all dialects. -/
def reference : String :=
  lines (["sqlweave dialect reference".toList, [],
    referenceLine "Dialect".toList "Identifier".toList "Placeholder".toList "Pagination".toList
      "Returning".toList,
    List.replicate 72 '─'] ++
    Dialect.all.map fun dialect =>
      referenceLine dialect.name.toList (dialect.quote "col").toList (dialect.placeholder 1)
        (paging dialect).toList (if dialect.returnsRows then "native" else "emulated").toList)

def version : String := lines ["sqlweave 0.1.0".toList]

def help : String :=
  lines (["Compile structured query descriptions into dialect-correct SQL", "",
    "Usage: sqlweave [--config FILE] [--verbose] COMMAND", "",
    "Commands:",
    "  compile FILE   Print the SQL and bindings for a query description",
    "  run FILE       Execute a query description against a database",
    "  dialects       Show the quoting and placeholder reference", "",
    "Options of compile and run:",
    "  -d, --dialect DIALECT     Target dialect",
    "  -f, --format FORMAT       table or json",
    "      --no-returning        Compile writes without RETURNING (compile)",
    "      --database-url URL    Database connection URL (run)"].map String.toList)

end Listing
end Polyquery.Command
