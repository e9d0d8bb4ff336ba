import Polyquery.Compile.Compiled
import Polyquery.Proofs.FilterWire
import Polyquery.Wire.Query

/-! Queries on the wire. Each part of a query is read back from what it is written as,
some of them under a condition that everything that was read meets. So a query that was
read, in whatever spelling, is read back unchanged. -/
namespace Polyquery
open Json

/-! ## What can be sent -/

/-- Filters in the order in which a reader hands them out. -/
structure Filters.Settled (filters : Filters Json) : Prop extends filters.Sendable where
  sorted : byCategory filters.list = filters.list

/-- A page request whose sizes can be written. -/
structure Paging.Sendable (paging : Paging) : Prop where
  page : ∀ n ∈ paging.page, n < rowNumbers
  limit : ∀ n ∈ paging.limit, n < rowNumbers

/-- The rows of a body. -/
def Body.all : Body → List Row
  | .row cells => [cells]
  | .rows list => list

/-- The JSON in the rows is as any reader makes it. -/
def Body.WellNamed (body : Body) : Prop :=
  ∀ row ∈ body.all, ∀ entry ∈ row.entries, entry.2.WellNamed

/-- A query that can be understood from what is written of it. -/
structure Query.Sendable (query : Query) : Prop where
  filters : ∀ filters ∈ query.filters, filters.Settled
  /-- No field is sorted twice. -/
  sort : ∀ keys ∈ query.sort, (keys.map Prod.fst).Nodup
  paging : ∀ paging ∈ query.paging, paging.Sendable
  body : ∀ body ∈ query.body, body.WellNamed
  extra : ∀ extra ∈ query.extra, ∀ filters ∈ extra.idFilter, filters.Settled

namespace Wire

/-! ## Parts that are always read back -/

@[simp] theorem operation_back (kind : Operation) :
    operation (.ofJson (.string kind.name)) = some kind := by
  cases kind <;> decide

@[simp] theorem direction_back (way : Direction) :
    direction (.ofJson (.string way.name)) = some way := by
  cases way <;> decide

theorem endpoint_back (endpoint : Endpoint) : ReadsBack Wire.endpoint ofEndpoint endpoint := by
  refine ⟨?_, nofun⟩
  have found : fields [["datasourceId"], ["entityId"], ["operation"], ["schema"]]
      (.ofJson (ofEndpoint endpoint)) = some [some (.ofJson (.string endpoint.datasource)),
        some (.ofJson (.string endpoint.table)), some (.ofJson (.string endpoint.operation.name)),
        endpoint.schema.map fun schema => .ofJson (.string schema)] :=
    (fields_object (by decide) (by simp)).trans (by simp)
  simp [Wire.endpoint, found, defaulted, required]

theorem resource_back (names : List String) : ReadsBack resource ofResource names := by
  refine ⟨?_, nofun⟩
  have found : fields [["fields"]] (.ofJson (ofResource names)) =
      some [some (.ofJson (.array (names.map .string)))] :=
    (fields_object (by decide) (by simp)).trans (by simp)
  have listed := list_back fun name (_ : name ∈ names) => string_back name
  simp [resource, found, defaulted, listed]

theorem relationship_back (edge : Relationship) : ReadsBack relationship ofRelationship edge := by
  refine ⟨?_, nofun⟩
  have found : fields [["fromTable"], ["toTable", "tableName"], ["through"], ["from"], ["to"],
      ["fromPrimary"], ["toPrimary"]] (.ofJson (ofRelationship edge)) =
        some [edge.fromTable.map fun name => .ofJson (.string name),
          some (.ofJson (.string edge.toTable)), edge.through.map fun name => .ofJson (.string name),
          some (.ofJson (.string edge.fromColumn)), some (.ofJson (.string edge.toColumn)),
          edge.fromPrimary.map fun name => .ofJson (.string name),
          edge.toPrimary.map fun name => .ofJson (.string name)] :=
    (fields_object (by decide) (by simp)).trans (by simp)
  simp [relationship, found, required]

theorem column_back (column : Column) : ReadsBack Wire.column ofColumn column := by
  refine ⟨?_, nofun⟩
  have found : fields [["type"], ["subtype"], ["externalType"]] (.ofJson (ofColumn column)) =
      some [some (.ofJson (.string column.type.name)),
        column.subtype.map fun subtype => .ofJson (.string subtype.name),
        column.nativeType.map fun type => .ofJson (.string type)] :=
    (fields_object (by decide) (by simp)).trans (by simp)
  have type : (variant (.ofJson (.string column.type.name))).map ColumnType.ofName =
      some column.type := congrArg some (ColumnType.ofName_name column.type)
  have subtype : optional (fun document => (variant document).map ColumnSubtype.ofName)
      (column.subtype.map fun subtype => .ofJson (.string subtype.name)) = some column.subtype :=
    optional_back fun inner _ => ⟨congrArg some (ColumnSubtype.ofName_name inner), nofun⟩
  simp [Wire.column, found, defaulted, type, subtype]

theorem table_back (table : Table) : ReadsBack Wire.table ofTable table := by
  refine ⟨?_, nofun⟩
  have found : fields [["name"], ["primary"], ["schema"]] (.ofJson (ofTable table)) =
      some [some (.ofJson (.string table.name)), some (.ofJson (.array (table.primary.map .string))),
        some (.ofJson (.object (table.columns.entries.map fun entry =>
          (entry.1, ofColumn entry.2))))] :=
    (fields_object (by decide) (by simp)).trans (by simp)
  have primary := list_back fun name (_ : name ∈ table.primary) => string_back name
  have columns := dictionary_back fun entry (_ : entry ∈ table.columns.entries) => column_back entry.2
  simp [Wire.table, found, defaulted, required, primary, columns]

/-- What is known of a table is written as an object of its own. -/
def ofDetails (known : Details) : Json := object [whenSome "table" known.table ofTable]

theorem details_back (known : Details) : ReadsBack details ofDetails known := by
  refine ⟨?_, nofun⟩
  have found : fields [["table"]] (.ofJson (ofDetails known)) =
      some [known.table.map fun table => .ofJson (ofTable table)] :=
    (fields_object (by decide) (by simp)).trans (by simp)
  have table := optional_back fun table (_ : table ∈ known.table) => table_back table
  simp [details, found, table]

theorem aliases_back (aliases : Dictionary String) :
    dictionary string (.ofJson (.object (aliases.entries.map fun (table, name) =>
      (table, .string name)))) = some aliases :=
  dictionary_back fun entry _ => string_back entry.2

/-! ## Parts that are read back if they were read -/

/-- Sizes below the greatest integer of the wire are read back. -/
theorem size_back {n : Nat} (small : n < rowNumbers) : ReadsBack size ofSize n := by
  have inRange : InRange n := by
    unfold InRange
    unfold rowNumbers at small
    omega
  have written : ofSize n = .number (.int n inRange) := by
    simp [ofSize, Number.ofInt?, inRange]
  refine ⟨?_, ?_⟩
  · rw [written]
    simp [Document.ofJson, size]
  · rw [written]
    exact nofun

theorem small_of_size {document : Document} {n : Nat} (read : size document = some n) :
    n < rowNumbers := by
  unfold size at read
  split at read
  · next m inRange =>
    split at read
    · cases read
      unfold InRange at inRange
      unfold rowNumbers
      omega
    · cases read
  · cases read

theorem paging_back {paging : Paging} (sendable : paging.Sendable) :
    ReadsBack Wire.paging ofPaging paging := by
  refine ⟨?_, nofun⟩
  have found : fields [["page"], ["limit"]] (.ofJson (ofPaging paging)) =
      some [paging.page.map fun n => .ofJson (ofSize n), paging.limit.map fun n => .ofJson (ofSize n)] :=
    (fields_object (by decide) (by simp)).trans (by simp)
  have page := optional_back fun n (given : n ∈ paging.page) => size_back (sendable.page n given)
  have limit := optional_back fun n (given : n ∈ paging.limit) => size_back (sendable.limit n given)
  simp [Wire.paging, found, page, limit]

theorem sendable_of_paging {document : Document} {request : Paging}
    (read : paging document = some request) : request.Sendable := by
  simp only [paging, Option.bind_eq_bind, Option.bind_eq_some_iff] at read
  obtain ⟨found, _, read⟩ := read
  split at read
  · simp only [Option.bind_eq_some_iff] at read
    obtain ⟨page, pageRead, limit, limitRead, same⟩ := read
    cases same
    exact ⟨of_optional pageRead small_of_size, of_optional limitRead small_of_size⟩
  · cases read

/-- The object of the direction of one sort key. -/
theorem sortKey_back (way : Direction) :
    sortKey (.ofJson (object [always "direction" (.string way.name)])) = some way := by
  have found : fields [["direction"]] (.ofJson (object [always "direction" (.string way.name)])) =
      some [some (.ofJson (.string way.name))] :=
    (fields_object (by decide) (by simp)).trans (by simp)
  simp [sortKey, found, defaulted]

/-- A sort is read back if no field is sorted twice. -/
theorem sort_back {keys : List (String × Direction)} (distinct : (keys.map Prod.fst).Nodup) :
    ReadsBack sort ofSort keys := by
  refine ⟨?_, nofun⟩
  let entry (key : String × Direction) : String × Json :=
    (key.1, object [always "direction" (.string key.2.name)])
  have names : (keys.map entry).map Prod.fst = keys.map Prod.fst := by
    rw [List.map_map]
    rfl
  let row : Record Json := ⟨keys.map entry, names ▸ distinct⟩
  have named : ∀ written ∈ row.entries, written.2.WellNamed := by
    intro written listed
    obtain ⟨key, _, rfl⟩ := List.mem_map.1 listed
    exact wellNamed_object.2 ⟨List.nodup_singleton _, List.forall_mem_singleton.2 trivial⟩
  have entries : record json (.ofJson (ofSort keys)) = some row := record_back named
  have read : row.entries.mapM (fun entry =>
      (sortKey (.ofJson entry.2)).map fun direction => (entry.1, direction)) = some keys := by
    refine mapM_map_self fun key _ => ?_
    simp [entry, sortKey_back]
  simp only [sort, entries, Option.bind_eq_bind, Option.bind_some, read]

theorem distinct_of_sort {document : Document} {keys : List (String × Direction)}
    (read : sort document = some keys) : (keys.map Prod.fst).Nodup := by
  simp only [sort, Option.bind_eq_bind, Option.bind_eq_some_iff] at read
  obtain ⟨entries, _, each⟩ := read
  have same : keys.map Prod.fst = entries.entries.map Prod.fst :=
    names_of_mapM (fun value => sortKey (.ofJson value)) each
  rw [same]
  exact entries.distinct

theorem body_back {written : Body} (named : written.WellNamed) : ReadsBack body ofBody written := by
  cases written with
  | row row =>
    refine ⟨?_, nofun⟩
    have read := record_back (named row List.mem_cons_self)
    simp only [ofBody, ofRecord, Document.ofJson, body] at read ⊢
    rw [read, Option.map_some]
  | rows rows =>
    refine ⟨?_, nofun⟩
    have read := list_back fun row (listed : row ∈ rows) =>
      (⟨record_back (named row listed), nofun⟩ : ReadsBack (record json) ofRecord row)
    simp only [ofBody, Document.ofJson, body, list] at read ⊢
    rw [read, Option.map_some]

theorem wellNamed_of_body {document : Document} {written : Body}
    (read : body document = some written) : written.WellNamed := by
  unfold body at read
  split at read
  · obtain ⟨rows, each, rfl⟩ := Option.map_eq_some_iff.1 read
    intro row listed
    obtain ⟨_, _, one⟩ := mem_of_forall₂ (mapM_eq_some_iff.1 each) row listed
    exact wellNamed_of_record one
  · obtain ⟨row, one, rfl⟩ := Option.map_eq_some_iff.1 read
    exact List.forall_mem_singleton.2 (wellNamed_of_record one)

/-- Filters in the order of their categories are read back as they are. -/
theorem settled_back {list : Filters Json} (settled : list.Settled) : ReadsBack filters ofFilters list := by
  refine ⟨?_, nofun⟩
  rw [filters_back settled.toSendable, settled.sorted]

theorem settled_of_read {document : Document} {list : Filters Json}
    (read : filters document = some list) : list.Settled :=
  ⟨sendable_of_read read, byCategory_of_read read⟩

/-- What identifies the written row is written as an object of its own. -/
def ofExtra (more : Extra) : Json := object [whenSome "idFilter" more.idFilter ofFilters]

theorem extra_back {more : Extra} (settled : ∀ filters ∈ more.idFilter, filters.Settled) :
    ReadsBack extra ofExtra more := by
  refine ⟨?_, nofun⟩
  have found : fields [["idFilter"]] (.ofJson (ofExtra more)) =
      some [more.idFilter.map fun filters => .ofJson (ofFilters filters)] :=
    (fields_object (by decide) (by simp)).trans (by simp)
  have filters := optional_back fun filters given => settled_back (settled filters given)
  simp [extra, found, filters]

theorem settled_of_extra {document : Document} {more : Extra} (read : extra document = some more) :
    ∀ filters ∈ more.idFilter, filters.Settled := by
  simp only [extra, Option.bind_eq_bind, Option.bind_eq_some_iff] at read
  obtain ⟨found, _, read⟩ := read
  split at read
  · simp only [Option.bind_eq_some_iff] at read
    obtain ⟨filter, filterRead, same⟩ := read
    cases same
    exact of_optional filterRead settled_of_read
  · cases read

/-! ## Queries -/

/-- The names that the members of a query go by. -/
def queryNames : List (List String) :=
  [["endpoint"], ["resource"], ["filters"], ["sort"], ["paginate"], ["relationships"],
    ["tableAliases"], ["meta"], ["body"], ["extra"]]

theorem query_members (query : Query) :
    fields queryNames (.ofJson (ofQuery query)) = some [some (.ofJson (ofEndpoint query.endpoint)),
      query.fields.map fun names => .ofJson (ofResource names),
      query.filters.map fun filters => .ofJson (ofFilters filters),
      query.sort.map fun keys => .ofJson (ofSort keys),
      query.paging.map fun paging => .ofJson (ofPaging paging),
      if query.relationships.isEmpty then none
        else some (.ofJson (.array (query.relationships.map ofRelationship))),
      if query.aliases.isEmpty then none
        else some (.ofJson (.object (query.aliases.entries.map fun (table, name) => (table, .string name)))),
      query.details.map fun known => .ofJson (ofDetails known),
      query.body.map fun body => .ofJson (ofBody body),
      query.extra.map fun more => .ofJson (ofExtra more)] :=
  (fields_object (by decide) (by simp [queryNames, -List.isEmpty_iff])).trans
    (by simp [ofDetails, ofExtra, -List.isEmpty_iff])

theorem relationships_back (edges : List Relationship) :
    defaulted [] (list relationship) (if edges.isEmpty then none
      else some (.ofJson (.array (edges.map ofRelationship)))) = some edges := by
  cases edges with
  | nil => rfl
  | cons edge rest => exact list_back fun edge _ => relationship_back edge

theorem tableAliases_back (aliases : Dictionary String) :
    defaulted .empty (dictionary string) (if aliases.isEmpty then none
      else some (.ofJson (.object (aliases.entries.map fun (table, name) => (table, .string name))))) =
        some aliases := by
  obtain ⟨entries, increasing⟩ := aliases
  cases entries with
  | nil => rfl
  | cons entry rest => exact aliases_back ⟨entry :: rest, increasing⟩

/-- A query that can be sent is read back. -/
theorem query_back {written : Query} (sendable : written.Sendable) :
    query (.ofJson (ofQuery written)) = some written := by
  have found := query_members written
  have resource := optional_back fun names (_ : names ∈ written.fields) => resource_back names
  have filters := optional_back fun filters given => settled_back (sendable.filters filters given)
  have sort := optional_back fun keys given => sort_back (sendable.sort keys given)
  have paging := optional_back fun paging given => paging_back (sendable.paging paging given)
  have details := optional_back fun known (_ : known ∈ written.details) => details_back known
  have body := optional_back fun body given => body_back (sendable.body body given)
  have extra := optional_back fun extra given => extra_back (sendable.extra extra given)
  unfold queryNames at found
  simp only [query, found, Option.bind_eq_bind, Option.bind_some, required, (endpoint_back _).back,
    resource, filters, sort, paging, relationships_back, tableAliases_back, details, body, extra]

/-- Whatever its spelling was, a query that was read can be sent. -/
theorem sendable_of_query {document : Document} {given : Query} (read : query document = some given) :
    given.Sendable := by
  simp only [query, Option.bind_eq_bind, Option.bind_eq_some_iff] at read
  obtain ⟨found, _, read⟩ := read
  split at read
  · simp only [Option.bind_eq_some_iff] at read
    obtain ⟨endpoint, _, names, _, filters, filtersRead, keys, sortRead, paging, pagingRead, edges, _,
      aliases, _, details, _, body, bodyRead, extra, extraRead, same⟩ := read
    cases same
    exact ⟨of_optional filtersRead settled_of_read, of_optional sortRead distinct_of_sort,
      of_optional pagingRead sendable_of_paging, of_optional bodyRead wellNamed_of_body,
      of_optional extraRead settled_of_extra⟩
  · cases read

end Wire

/-- A query survives its wire form. However it was spelled, a query that was read is read
again, unchanged, from what is written of it; so the same is written of it again, and it
compiles to the same statement under every compiler. -/
theorem query_survives_wire {document : Document} {query : Query}
    (read : Wire.query document = some query) :
    ∃ again, Query.ofJson? query.toJson = some again ∧ again = query ∧
      again.toJson = query.toJson ∧
      ∀ compiler : Compiler, compiler.compile again = compiler.compile query :=
  ⟨query, Wire.query_back (Wire.sendable_of_query read), rfl, rfl, fun _ => rfl⟩

/-- A query in an unusual spelling: an endpoint as an array, its operation as an object, a
destination by its other name, a sort key without a direction, a column type that nobody
knows, a page that is null and a member that no reader knows. -/
def looselySpelled : Document :=
  .object [("remark", .unreadable),
    ("endpoint", .array [.string "main", .string "orders", .object [("READ", .null)]]),
    ("filters", looseDocument),
    ("sort", .object [("day", .array []), ("name", .object [("direction", .string "descending")])]),
    ("paginate", .null),
    ("relationships", .array [.object [("tableName", .string "customers"),
      ("from", .string "customer_id"), ("to", .string "id")]]),
    ("tableAliases", .object [("orders", .string "a"), ("orders", .string "o")]),
    ("meta", .array [.object [("name", .string "orders"), ("primary", .array [.string "id"]),
      ("schema", .object [("day", .array [.string "hologram"])])]]),
    ("body", .array [.object [("note", .object [("a", .null), ("a", .bool true)])]])]

theorem loosely_spelled_survives :
    ∃ query, Wire.query looselySpelled = some query ∧ query.aliasOf "orders" = "o" ∧
      ∃ again, Query.ofJson? query.toJson = some again ∧ again = query ∧
        again.toJson = query.toJson ∧
        ∀ compiler : Compiler, compiler.compile again = compiler.compile query := by
  have read : Wire.query looselySpelled = some _ := rfl
  exact ⟨_, read, by decide +kernel, query_survives_wire read⟩

end Polyquery
