import Polyquery.Keyed.Dictionary
import Polyquery.Text.Lowercase
import Polyquery.Text.Split

/-! What a query knows about its table: the primary key and the kinds of the
columns. -/
namespace Polyquery

inductive ColumnType where
  | string
  | longform
  | options
  | number
  | boolean
  | array
  | datetime
  | attachment
  | link
  | formula
  | json
  | bigint
  | reference
  | other
  deriving DecidableEq, Inhabited

namespace ColumnType

def all : List ColumnType :=
  [.string, .longform, .options, .number, .boolean, .array, .datetime, .attachment, .link,
    .formula, .json, .bigint, .reference, .other]

def name : ColumnType → String
  | .string => "string"
  | .longform => "longform"
  | .options => "options"
  | .number => "number"
  | .boolean => "boolean"
  | .array => "array"
  | .datetime => "datetime"
  | .attachment => "attachment"
  | .link => "link"
  | .formula => "formula"
  | .json => "json"
  | .bigint => "bigint"
  | .reference => "bb_reference"
  | .other => "other"

/-- The type of a name; a name nobody knows is another type. -/
def ofName (name : String) : ColumnType := (all.find? fun type => type.name == name).getD .other

theorem ofName_name (type : ColumnType) : ofName type.name = type := by cases type <;> decide

end ColumnType

inductive ColumnSubtype where
  | user
  | users
  | other
  deriving DecidableEq

namespace ColumnSubtype

def name : ColumnSubtype → String
  | .user => "user"
  | .users => "users"
  | .other => "other"

/-- The subtype of a name; a name nobody knows is another subtype. -/
def ofName : String → ColumnSubtype
  | "user" => .user
  | "users" => .users
  | _ => .other

theorem ofName_name (subtype : ColumnSubtype) : ofName subtype.name = subtype := by
  cases subtype <;> decide

end ColumnSubtype

/-- What is known of a column. The native type is the one that the data source
reports. -/
structure Column where
  type : ColumnType
  subtype : Option ColumnSubtype
  nativeType : Option String
  deriving DecidableEq

/-- JSON documents and lists of users are stored as JSON text. -/
def Column.isJson (column : Column) : Bool :=
  match column.type with
  | .json => true
  | .reference => column.subtype == some .users
  | _ => false

/-- The native type speaks of money, in any case of letters. -/
def Column.isMoney (column : Column) : Bool :=
  column.nativeType.any fun type => Text.occursIn "money".toList (Text.lower type).toList

structure Table where
  name : String
  primary : List String
  columns : Dictionary Column
  deriving DecidableEq

/-- The column that identifies a row. -/
def Table.key? (table : Table) : Option String := table.primary.head?

/-- The columns stored as JSON text, sorted by name. -/
def Table.jsonColumns (table : Table) : List String :=
  (table.columns.entries.filter fun (_, column) => column.isJson).map Prod.fst

end Polyquery
