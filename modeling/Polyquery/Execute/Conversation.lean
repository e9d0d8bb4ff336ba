import Polyquery.Compile.Compiled
import Polyquery.Execute.Materialize

/-! Running a query is a conversation with a database: statements go out one by
one, and each answer decides what happens next. A dialect that cannot return
written rows reads the row back with a second statement; a delete reads it
before it is gone. -/
namespace Polyquery

/-- What one statement yields. -/
structure Response where
  rows : List Row
  /-- The key of the last inserted row, if the driver reports one. -/
  lastKey : Option Value
  deriving DecidableEq

def Response.empty : Response := ⟨[], none⟩

/-- What a query hands back. -/
inductive Outcome where
  /-- The rows of a read, JSON columns parsed. -/
  | rows (rows : List Row) (faults : List CellFault)
  /-- The written row, empty when it could not be identified. -/
  | row (row : Row)
  | nothing
  deriving DecidableEq

/-- All rows of an outcome, whatever its shape. -/
def Outcome.all : Outcome → List Row
  | .rows found _ => found
  | .row found => if found.isEmpty then [] else [found]
  | .nothing => []

/-- The cells of an outcome that should have held JSON and did not. -/
def Outcome.faults : Outcome → List CellFault
  | .rows _ found => found
  | .row _ | .nothing => []

/-- A conversation with a database in statements of one kind, that ends in a
result. -/
inductive Conversation (σ : Type) where
  | finish (result : Except Error Outcome)
  | ask (statement : σ) (next : Except Error Response → Conversation σ)

namespace Conversation
variable {σ : Type}

/-- The conversation held with scripted answers: the statements that went out
and the result. When the script has run out, every answer is empty. -/
def hold : Conversation σ → List (Except Error Response) → List σ × Except Error Outcome
  | .finish result, _ => ([], result)
  | .ask statement next, script =>
    let (statements, result) := (next (script.head?.getD (.ok .empty))).hold script.tail
    (statement :: statements, result)

/-- Send a statement and go on with its response; an error ends it all. -/
def send (statement : σ) (next : Response → Conversation σ) : Conversation σ :=
  .ask statement fun
    | .error error => .finish (.error error)
    | .ok response => next response

/-- Send what was compiled, if it was. -/
def say (compiled : Except Error σ) (next : Response → Conversation σ) : Conversation σ :=
  match compiled with
  | .error error => .finish (.error error)
  | .ok statement => send statement next

end Conversation

namespace Query
open Conversation

/-- The filter that one column equals a value. -/
def equalFilter (column : String) (value : Json) : Filters Json := Filters.none.add column (.equal value)

/-- The key value that a body gives itself, unless it is null. -/
def bodyKey? (query : Query) (key : String) : Option Json :=
  match query.body with
  | some (.row row) => (row.get? key).filter fun value => !value.isNull
  | _ => none

/-- The key of a created row that the dialect generated. -/
def generatedKey? (dialect : Dialect) (response : Response) : Option Json :=
  match dialect.generatedKey with
  | .reported => response.lastKey.map Value.toJson
  | .selected =>
    (response.rows.head?.bind fun row => row.get? "id").filter fun value => !value.isNull
  | .absent => none

/-- The filter that finds the row just written: for a create the generated key,
else the key in the body; otherwise the filter that the query brings along. -/
def identity? (query : Query) (dialect : Dialect) (response : Response) : Option (Filters Json) :=
  let created : Option (Filters Json) :=
    if query.operation = .create then
      (query.table?.bind Table.key?).bind fun key =>
        ((generatedKey? dialect response).orElse fun _ => query.bodyKey? key).map (equalFilter key)
    else none
  created.orElse fun _ => query.idFilter?

/-- The read of one row of the query's table through a filter. -/
def lookup (query : Query) (filter : Filters Json) : Query :=
  { plain query.tableName .read with
    endpoint := { query.endpoint with operation := .read }
    filters := some filter
    paging := some ⟨none, some 1⟩
    details := query.details }

/-- The result of a read. -/
def readOutcome (query : Query) (rows : List Row) : Outcome :=
  match query.table? with
  | some table => let (rows, faults) := table.materialize rows; .rows rows faults
  | none => .rows rows []

section
variable {σ : Type} (compile : Query → Except Error σ) (process : List Row → List Row)

/-- Read a row through a filter and go on with it; without a filter the row is
empty. -/
def readBack (query : Query) (filter : Option (Filters Json)) (next : Row → Conversation σ) :
    Conversation σ :=
  match filter with
  | none => next .empty
  | some filter =>
    say (compile (query.lookup filter)) fun response => next ((process response.rows).headD .empty)

/-- A write on a dialect that does not return rows. The write is compiled before
anything is sent. -/
def emulated (query : Query) (dialect : Dialect) : Conversation σ :=
  match compile query with
  | .error error => .finish (.error error)
  | .ok write =>
    if query.operation = .delete then
      query.readBack compile process query.idFilter? fun row =>
        send write fun _ => .finish (.ok (.row row))
    else
      send write fun response =>
        query.readBack compile process (query.identity? dialect response) fun row =>
          .finish (.ok (.row row))

/-- The conversation of a query, in statements as they are compiled. Every result
set goes through `process` before it is interpreted. -/
def converse (query : Query) (dialect : Dialect) : Conversation σ :=
  match query.operation with
  | .read =>
    say (compile query) fun response => .finish (.ok (query.readOutcome (process response.rows)))
  | .bulkCreate => say (compile query) fun _ => .finish (.ok .nothing)
  | .create | .update | .delete =>
    if dialect.returnsRows then
      say (compile query) fun response =>
        .finish (.ok (.row ((process response.rows).headD .empty)))
    else query.emulated compile process dialect
  | .createTable | .updateTable | .deleteTable =>
    .finish (.error (.unsupported query.operation))

end

/-- The conversation of a query, in statements as drivers take them. -/
def conversation (query : Query) (dialect : Dialect) (rowCap : Nat)
    (process : List Row → List Row) : Conversation Compiled :=
  query.converse (Compiler.of dialect rowCap).compile process dialect

end Query
end Polyquery
