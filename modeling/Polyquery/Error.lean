import Polyquery.Query.Dialect
import Polyquery.Query.Operation

/-! Everything that can go wrong, by cause. The wording of each cause is in one
place, `Error.message`. -/
namespace Polyquery

/-- Why a query description cannot be compiled. -/
inductive Unusable where
  | createOfList
  | createOfNothing (dialect : Dialect)
  | bulkOfNothing
  | bulkWithoutList
  | updateOfList
  | updateOfNothing
  | pageOutOfRange (page limit : Nat)
  | throughWithoutPrimaries (destination through : String)
  deriving DecidableEq

def Unusable.message : Unusable → String
  | .createOfList => "create takes a single row, use bulk create for lists"
  | .createOfNothing dialect =>
    dialect.name ++ " cannot insert a row without at least one non-null value"
  | .bulkOfNothing => "bulk create requires at least one row"
  | .bulkWithoutList => "bulk create body must be a list of rows"
  | .updateOfList => "update takes a single row"
  | .updateOfNothing => "update has no fields to set"
  | .pageOutOfRange page limit =>
    "page " ++ toString page ++ " of " ++ toString limit ++ " rows is out of range"
  | .throughWithoutPrimaries destination through =>
    "relationship to '" ++ destination ++ "' through '" ++ through ++
      "' needs fromPrimary and toPrimary"

/-- Why the settings cannot be used. -/
inductive Misconfigured where
  | rowCapUnreadable (setting text : String)
  | rowCapZero
  deriving DecidableEq

def Misconfigured.message : Misconfigured → String
  | .rowCapUnreadable setting text =>
    setting ++ " must be a positive integer, got '" ++ text ++ "'"
  | .rowCapZero => "max_rows must be greater than zero"

inductive Error where
  | unknownDialect (name : String)
  /-- A data source that no dialect belongs to. -/
  | unknownSource (name : String)
  | unsupported (operation : Operation)
  | unusable (why : Unusable)
  | execution (text : String)
  | misconfigured (why : Misconfigured)
  | unreadableFile (text : String)
  | malformedJson
  | malformedToml
  deriving DecidableEq

def Error.message : Error → String
  | .unknownDialect name =>
    "Unknown dialect: '" ++ name ++ "'. Expected: postgres, mysql, mariadb, mssql or oracle"
  | .unknownSource name =>
    "Unknown dialect: '" ++ name ++
      " (not a SQL datasource)'. Expected: postgres, mysql, mariadb, mssql or oracle"
  | .unsupported operation =>
    "Operation type is not supported by the SQL query compiler: " ++ operation.name
  | .unusable why => "Invalid query: " ++ why.message
  | .execution text => "Execution error: " ++ text
  | .misconfigured why => "Configuration error: " ++ why.message
  | .unreadableFile text => "IO error: " ++ text
  | .malformedJson => "JSON error"
  | .malformedToml => "TOML error"

/-- The dialect of a name, or the error that names it. -/
def Dialect.ofName (name : String) : Except Error Dialect :=
  match ofName? name with
  | some dialect => .ok dialect
  | none => .error (.unknownDialect name)

/-- The dialect of a kind of data source, or the error that names it. -/
def Dialect.ofSource (name : String) : Except Error Dialect :=
  match ofSource? name with
  | some dialect => .ok dialect
  | none => .error (.unknownSource name)

end Polyquery
