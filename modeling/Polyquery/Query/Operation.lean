/-! The kinds of data operations a query can ask for. -/
namespace Polyquery

inductive Operation where
  | create
  | read
  | update
  | delete
  | bulkCreate
  | createTable
  | updateTable
  | deleteTable
  deriving DecidableEq, Inhabited

namespace Operation

def all : List Operation :=
  [.create, .read, .update, .delete, .bulkCreate, .createTable, .updateTable, .deleteTable]

/-- The name of an operation, on the wire and in messages. -/
def name : Operation → String
  | .create => "CREATE"
  | .read => "READ"
  | .update => "UPDATE"
  | .delete => "DELETE"
  | .bulkCreate => "BULK_CREATE"
  | .createTable => "CREATE_TABLE"
  | .updateTable => "UPDATE_TABLE"
  | .deleteTable => "DELETE_TABLE"

def ofName? (name : String) : Option Operation := all.find? fun operation => operation.name == name

theorem ofName?_name (operation : Operation) : ofName? operation.name = some operation := by
  cases operation <;> decide

end Operation

/-- The direction of a sort. -/
inductive Direction where
  | ascending
  | descending
  deriving DecidableEq, Inhabited

def Direction.name : Direction → String
  | .ascending => "ascending"
  | .descending => "descending"

end Polyquery
