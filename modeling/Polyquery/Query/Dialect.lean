import Polyquery.Text.Blank

/-! The SQL dialects and what each of them can do. -/
namespace Polyquery

inductive Dialect where
  | postgres
  | mysql
  | mariadb
  | sqlServer
  | oracle
  deriving DecidableEq, Inhabited

/-- How a filter on the elements of a stored array is expressed. -/
inductive Containment where
  /-- The binary JSON operators. -/
  | operators
  /-- The JSON functions. -/
  | functions
  /-- One text pattern for each element. -/
  | patterns
  deriving DecidableEq

/-- Where the key of a new row comes from when the row itself is not returned. -/
inductive GeneratedKey where
  /-- The driver reports it with the response. -/
  | reported
  /-- A second statement selects it as the column `id`. -/
  | selected
  | absent
  deriving DecidableEq

namespace Dialect

def all : List Dialect := [.postgres, .mysql, .mariadb, .sqlServer, .oracle]

/-- The short name of a dialect. -/
def name : Dialect → String
  | .postgres => "pg"
  | .mysql => "mysql"
  | .mariadb => "mariadb"
  | .sqlServer => "mssql"
  | .oracle => "oracledb"

/-- The dialect of a name, in any case of ASCII letters. -/
def ofName? (name : String) : Option Dialect :=
  match Text.lowerAscii name with
  | "pg" | "postgres" | "postgresql" => some .postgres
  | "mysql" => some .mysql
  | "mariadb" => some .mariadb
  | "mssql" | "sqlserver" | "sql_server" => some .sqlServer
  | "oracle" | "oracledb" => some .oracle
  | _ => none

/-- The dialect of a kind of data source. -/
def ofSource? : String → Option Dialect
  | "POSTGRES" => some .postgres
  | "MYSQL" => some .mysql
  | "MARIADB" => some .mariadb
  | "SQL_SERVER" => some .sqlServer
  | "ORACLE" => some .oracle
  | _ => none

/-- A write can hand back the rows it touched. -/
def returnsRows : Dialect → Bool
  | .postgres => true
  | .mysql | .mariadb | .sqlServer | .oracle => false

/-- There is a pattern match that ignores case by itself. -/
def ignoresCase : Dialect → Bool
  | .postgres => true
  | .mysql | .mariadb | .sqlServer | .oracle => false

def containment : Dialect → Containment
  | .postgres => .operators
  | .mysql | .mariadb => .functions
  | .sqlServer | .oracle => .patterns

/-- Paging without a sort needs an order to be defined at all. -/
def ordersPages : Dialect → Bool
  | .sqlServer => true
  | .postgres | .mysql | .mariadb | .oracle => false

/-- The sort may be repeated outside of a derived table. -/
def sortsOutside : Dialect → Bool
  | .sqlServer => false
  | .postgres | .mysql | .mariadb | .oracle => true

/-- An insert may name no column at all. -/
def insertsDefaults : Dialect → Bool
  | .oracle => false
  | .postgres | .mysql | .mariadb | .sqlServer => true

/-- Money columns are cast to numbers when they are selected. -/
def castsMoney : Dialect → Bool
  | .postgres => true
  | .mysql | .mariadb | .sqlServer | .oracle => false

def generatedKey : Dialect → GeneratedKey
  | .mysql | .mariadb => .reported
  | .sqlServer => .selected
  | .postgres | .oracle => .absent

theorem ofName?_name (dialect : Dialect) : ofName? dialect.name = some dialect := by
  cases dialect <;> decide +kernel

end Dialect
end Polyquery
