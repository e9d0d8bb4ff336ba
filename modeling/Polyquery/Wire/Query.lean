import Polyquery.Wire.Filters
import Polyquery.Wire.Table
import Polyquery.Json.Reader
import Polyquery.Query.Basic

/-! The wire form of queries and their parts. -/
namespace Polyquery.Wire
open Json

/-- Reads an operation. -/
def operation : Decoder Operation := fun document => (variant document).bind Operation.ofName?

/-- Reads an endpoint. -/
def endpoint : Decoder Endpoint := fun document => do
  match ← fields [["datasourceId"], ["entityId"], ["operation"], ["schema"]] document with
  | [datasource, table, kind, schema] =>
    some {
      datasource := ← defaulted "" string datasource
      table := ← required string table
      operation := ← required operation kind
      schema := ← optional string schema }
  | _ => none

def ofEndpoint (endpoint : Endpoint) : Json :=
  object [
    always "datasourceId" (.string endpoint.datasource),
    always "entityId" (.string endpoint.table),
    always "operation" (.string endpoint.operation.name),
    whenSome "schema" endpoint.schema .string]

/-- Reads the list of requested fields. -/
def resource : Decoder (List String) := fun document => do
  match ← fields [["fields"]] document with
  | [names] => defaulted [] (list string) names
  | _ => none

def ofResource (names : List String) : Json :=
  object [always "fields" (.array (names.map .string))]

/-- Reads a direction. -/
def direction : Decoder Direction := fun document =>
  (variant document).bind fun name =>
    if name = "ascending" then some .ascending
    else if name = "descending" then some .descending
    else none

/-- Reads the direction of one sort key. -/
def sortKey : Decoder Direction := fun document => do
  match ← fields [["direction"]] document with
  | [way] => defaulted .ascending direction way
  | _ => none

/-- Reads a sort: an object from fields to their directions, in its order. The
entries are collapsed before they are read. -/
def sort : Decoder (List (String × Direction)) := fun document => do
  let entries ← record json document
  entries.entries.mapM fun (field, value) =>
    (sortKey (.ofJson value)).map fun direction => (field, direction)

def ofSort (keys : List (String × Direction)) : Json :=
  .object (keys.map fun (field, direction) =>
    (field, object [always "direction" (.string direction.name)]))

/-- Reads a page request. -/
def paging : Decoder Paging := fun document => do
  match ← fields [["page"], ["limit"]] document with
  | [page, limit] => some { page := ← optional size page, limit := ← optional size limit }
  | _ => none

/-- A size as JSON. Sizes on the wire are below `2 ^ 64`. -/
def ofSize (n : Nat) : Json := (Number.ofInt? n).elim .null .number

def ofPaging (paging : Paging) : Json :=
  object [whenSome "page" paging.page ofSize, whenSome "limit" paging.limit ofSize]

/-- Reads an edge between tables. The destination goes by two names. -/
def relationship : Decoder Relationship := fun document => do
  match ← fields [["fromTable"], ["toTable", "tableName"], ["through"], ["from"], ["to"],
      ["fromPrimary"], ["toPrimary"]] document with
  | [fromTable, toTable, through, fromColumn, toColumn, fromPrimary, toPrimary] =>
    some {
      fromTable := ← optional string fromTable
      toTable := ← required string toTable
      through := ← optional string through
      fromColumn := ← required string fromColumn
      toColumn := ← required string toColumn
      fromPrimary := ← optional string fromPrimary
      toPrimary := ← optional string toPrimary }
  | _ => none

def ofRelationship (edge : Relationship) : Json :=
  object [
    whenSome "fromTable" edge.fromTable .string,
    always "toTable" (.string edge.toTable),
    whenSome "through" edge.through .string,
    always "from" (.string edge.fromColumn),
    always "to" (.string edge.toColumn),
    whenSome "fromPrimary" edge.fromPrimary .string,
    whenSome "toPrimary" edge.toPrimary .string]

/-- Reads what is known of the table. -/
def details : Decoder Details := fun document => do
  match ← fields [["table"]] document with
  | [known] => some { table := ← optional table known }
  | _ => none

/-- Reads the filter that identifies the written row. -/
def extra : Decoder Extra := fun document => do
  match ← fields [["idFilter"]] document with
  | [filter] => some { idFilter := ← optional filters filter }
  | _ => none

/-- Reads what a write writes: an object is one row, an array a list of rows. -/
def body : Decoder Body
  | .array items => (items.mapM (record json)).map .rows
  | document => (record json document).map .row

def ofBody : Body → Json
  | .row row => ofRecord row
  | .rows rows => .array (rows.map ofRecord)

/-- Reads a query. -/
def query : Decoder Query := fun document => do
  match ← fields [["endpoint"], ["resource"], ["filters"], ["sort"], ["paginate"],
      ["relationships"], ["tableAliases"], ["meta"], ["body"], ["extra"]] document with
  | [target, names, tests, order, page, edges, aliases, known, rows, more] =>
    some {
      endpoint := ← required endpoint target
      fields := ← optional resource names
      filters := ← optional filters tests
      sort := ← optional sort order
      paging := ← optional paging page
      relationships := ← defaulted [] (list relationship) edges
      aliases := ← defaulted .empty (dictionary string) aliases
      details := ← optional details known
      body := ← optional body rows
      extra := ← optional extra more }
  | _ => none

/-- Writes a query; whatever is not set is left out. -/
def ofQuery (query : Query) : Json :=
  object [
    always "endpoint" (ofEndpoint query.endpoint),
    whenSome "resource" query.fields ofResource,
    whenSome "filters" query.filters ofFilters,
    whenSome "sort" query.sort ofSort,
    whenSome "paginate" query.paging ofPaging,
    if query.relationships.isEmpty then none
    else always "relationships" (.array (query.relationships.map ofRelationship)),
    if query.aliases.isEmpty then none
    else always "tableAliases"
      (.object (query.aliases.entries.map fun (table, name) => (table, .string name))),
    whenSome "meta" query.details fun known => object [whenSome "table" known.table ofTable],
    whenSome "body" query.body ofBody,
    whenSome "extra" query.extra fun more => object [whenSome "idFilter" more.idFilter ofFilters]]

end Polyquery.Wire

namespace Polyquery

/-- The query that a JSON value describes. -/
def Query.ofJson? (json : Json) : Option Query := Wire.query (.ofJson json)

/-- The query that a JSON text describes. -/
def Query.parse? (text : String) : Option Query := (Json.Document.read? text).bind Wire.query

/-- The query as JSON. -/
def Query.toJson (query : Query) : Json := Wire.ofQuery query

end Polyquery
