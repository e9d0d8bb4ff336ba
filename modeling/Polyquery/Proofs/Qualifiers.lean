import Polyquery.Proofs.FilterPasses
import Polyquery.Proofs.References

/-! Which tables the columns of a read belong to. A select declares its tables one
after the other: what it selects from, then a table with each join. A column is in
scope if it is qualified with a name declared by then. Filters, joins and sorts each
look up the alias of a table for themselves; they agree with the declarations for
every alias map, as long as a query speaks of its own tables. -/
namespace Polyquery
open Sql

/-! ## Scopes -/

namespace Sql

/-- The column is of a table that is declared under one of the names. -/
def ColumnRef.IsAmong (names : List String) (column : ColumnRef) : Prop :=
  ∃ name ∈ names, column.table = some name

/-- Each join compares columns of tables that are declared up to this join. -/
def JoinsInScope : List String → List Join → Prop
  | _, [] => True
  | names, join :: rest =>
    (∀ pair ∈ join.on, pair.1.IsAmong (names ++ [join.table.reference]) ∧
      pair.2.IsAmong (names ++ [join.table.reference])) ∧
    JoinsInScope (names ++ [join.table.reference]) rest

/-- The names under which clauses find columns, that of their source first. -/
def Clauses.declared (source : String) (clauses : Clauses) : List String :=
  source :: clauses.joins.map (·.table.reference)

/-- The columns of conditions and sorts are of declared tables, those of joins of
tables declared by then. -/
structure Clauses.InScope (source : String) (clauses : Clauses) : Prop where
  joins : JoinsInScope [source] clauses.joins
  condition : ∀ leaf ∈ clauses.condition.leaves, ∀ column ∈ leaf.column?,
    column.IsAmong (clauses.declared source)
  order : ∀ key ∈ clauses.order, key.column.IsAmong (clauses.declared source)

/-- All of this holds of every select in the tree. A derived table shows its name
to the select around it, and none of the names inside. -/
def Select.InScope : Select → Prop
  | .table source clauses => clauses.InScope source.reference
  | .derived inner label clauses => inner.InScope ∧ clauses.InScope label

theorem joinsInScope_append {names : List String} {before after : List Join} :
    JoinsInScope names (before ++ after) ↔
      JoinsInScope names before ∧
        JoinsInScope (names ++ before.map (·.table.reference)) after := by
  induction before generalizing names with
  | nil => simp [JoinsInScope]
  | cons join rest ih =>
    rw [List.cons_append, JoinsInScope, JoinsInScope, ih, and_assoc, List.append_assoc]
    rfl

end Sql

/-! ## Joins -/

/-- Every edge leaves a table that is known: one of the given tables, or one that an
earlier route joins. -/
def LeaveKnown : List String → List (Route × List Relationship) → Prop
  | _, [] => True
  | known, (route, edges) :: rest =>
    (∀ edge ∈ edges, ∀ table ∈ edge.fromTable, table ∈ known) ∧
      LeaveKnown (known ++ route.tables) rest

instance decidableLeaveKnown :
    (known : List String) → (groups : List (Route × List Relationship)) →
      Decidable (LeaveKnown known groups)
  | _, [] => .isTrue trivial
  | known, (route, _) :: rest =>
    have := decidableLeaveKnown (known ++ route.tables) rest
    inferInstanceAs (Decidable (_ ∧ _))

theorem route_addEdge {edge : Relationship} {groups : List (Route × List Relationship)}
    (sorted : ∀ group ∈ groups, ∀ inside ∈ group.2, inside.route = group.1) :
    ∀ group ∈ addEdge edge groups, ∀ inside ∈ group.2, inside.route = group.1 := by
  induction groups with
  | nil => simp [addEdge]
  | cons first rest ih =>
    obtain ⟨route, edges⟩ := first
    obtain ⟨own, others⟩ := List.forall_mem_cons.1 sorted
    rw [addEdge]
    split
    · next same =>
      refine List.forall_mem_cons.2 ⟨fun inside member => ?_, others⟩
      rcases List.mem_append.1 member with there | new
      · exact own inside there
      · rw [List.mem_singleton.1 new, same]
    · exact List.forall_mem_cons.2 ⟨own, ih others⟩

/-- The edges of a group have the route of the group. -/
theorem route_of_group (edges : List Relationship) :
    ∀ group ∈ groupByRoute edges, ∀ edge ∈ group.2, edge.route = group.1 := by
  induction edges using List.reverseRecOn with
  | nil => simp [groupByRoute, Grouping.empty]
  | append_singleton edges edge ih =>
    rw [groupByRoute_concat]
    exact route_addEdge ih

section
variable {query : Query} {route : Route} {edges : List Relationship} {known : List String}

/-- What an edge leaves is known under the name of its table. -/
theorem source_known (own : query.tableName ∈ known) {edge : Relationship}
    (leaves : ∀ table ∈ edge.fromTable, table ∈ known) :
    query.joinScope.source edge ∈ known.map query.aliasOf := by
  refine List.mem_map.2 ⟨edge.fromTable.getD query.tableName, ?_, rfl⟩
  cases start : edge.fromTable with
  | none => exact own
  | some table => exact leaves table start

/-- The equalities of an edge through a join table compare what the edge leaves with
the join table, and its destination with the join table. -/
theorem throughEqualities_tables {through : String} {edge : Relationship}
    {pair : (ColumnRef × ColumnRef) × (ColumnRef × ColumnRef)}
    (equal : query.joinScope.throughEqualities through edge = .ok pair) :
    pair.1.1.table = some (query.joinScope.source edge) ∧
      pair.1.2.table = some (query.aliasOf through) ∧
      pair.2.1.table = some (query.aliasOf edge.toTable) ∧
      pair.2.2.table = some (query.aliasOf through) := by
  unfold JoinScope.throughEqualities at equal
  split at equal
  · cases equal
    exact ⟨rfl, rfl, rfl, rfl⟩
  · cases equal

/-- The joins of a route compare what is known with what they join. -/
theorem joinsInScope_route {joins : List Join} (joined : query.joinScope.joins route edges = .ok joins)
    (ofRoute : ∀ edge ∈ edges, edge.route = route) (own : query.tableName ∈ known)
    (leaves : ∀ edge ∈ edges, ∀ table ∈ edge.fromTable, table ∈ known) :
    JoinsInScope (known.map query.aliasOf) joins := by
  have start (edge : Relationship) (member : edge ∈ edges) :
      query.joinScope.source edge ∈ known.map query.aliasOf := source_known own (leaves edge member)
  have destination (edge : Relationship) (member : edge ∈ edges) : edge.toTable = route.destination :=
    congrArg Route.destination (ofRoute edge member)
  rcases Query.joins_ok joined with ⟨_, rfl⟩ | ⟨through, pairs, _, equal, rfl⟩
  · refine ⟨fun pair member => ?_, trivial⟩
    obtain ⟨edge, inside, rfl⟩ := List.mem_map.1 member
    simp only [reference_table, ← destination edge inside]
    exact ⟨⟨_, List.mem_append_left _ (start edge inside), rfl⟩,
      ⟨query.aliasOf edge.toTable, by simp, rfl⟩⟩
  · refine ⟨fun pair member => ?_, fun pair member => ?_, trivial⟩
    · obtain ⟨both, inside, rfl⟩ := List.mem_map.1 member
      obtain ⟨edge, ofEdge, found⟩ := Query.element_of_mapM_ok equal inside
      obtain ⟨left, right, _, _⟩ := throughEqualities_tables found
      rw [reference_table]
      exact ⟨⟨_, List.mem_append_left _ (start edge ofEdge), left⟩, ⟨_, by simp, right⟩⟩
    · obtain ⟨both, inside, rfl⟩ := List.mem_map.1 member
      obtain ⟨edge, ofEdge, found⟩ := Query.element_of_mapM_ok equal inside
      obtain ⟨_, _, left, right⟩ := throughEqualities_tables found
      rw [reference_table, reference_table, ← destination edge ofEdge]
      exact ⟨⟨_, by simp, left⟩, ⟨_, by simp, right⟩⟩

/-- The joins of many routes compare only what is declared by then, if their edges
leave known tables. -/
theorem joinsInScope_groups {groups : List (Route × List Relationship)} {parts : List (List Join)}
    (joined : groups.mapM (fun group => query.joinScope.joins group.1 group.2) = .ok parts)
    (sorted : ∀ group ∈ groups, ∀ edge ∈ group.2, edge.route = group.1)
    (own : query.tableName ∈ known) (leave : LeaveKnown known groups) :
    JoinsInScope (known.map query.aliasOf) parts.flatten := by
  -- The tables of a route are known to the routes behind it, so what is known grows
  -- along with the induction.
  induction groups generalizing known parts with
  | nil =>
    cases joined
    trivial
  | cons group rest ih =>
    obtain ⟨route, edges⟩ := group
    obtain ⟨leaves, others⟩ := leave
    obtain ⟨ofRoute, sortedRest⟩ := List.forall_mem_cons.1 sorted
    obtain ⟨joins, more, first, tail, rfl⟩ := Query.cons_of_mapM_ok joined
    have behind := ih tail sortedRest (List.mem_append_left _ own) others
    rw [List.flatten_cons, joinsInScope_append, references_joins first, ← List.map_append]
    exact ⟨joinsInScope_route first ofRoute own leaves, behind⟩

end

/-! ## Reads -/

/-- A query speaks of its own tables: it describes the table that it is about, its
filters are on tables that it joins, and its edges leave tables that are joined
before. -/
structure Query.SpeaksOfItsTables (query : Query) : Prop where
  described : ∀ table ∈ query.table?, table.name = query.tableName
  filters : ∀ filter ∈ query.filterList, Key.isRelated filter.key = true →
    Key.tablePart filter.key ∈ query.declaredTables
  edges : LeaveKnown [query.tableName] (groupByRoute query.relationships)

section
variable {query : Query} {dialect : Dialect}

/-- The leaves of a condition are on the columns of the filters of its pass. -/
theorem column_of_condition {pass : Pass} {leaf : Predicate}
    (inside : leaf ∈ (query.condition dialect pass query.aliases).leaves) :
    ∃ filter ∈ query.filterList, pass.takes filter.key = true ∧
      leaf.column? = some (query.filterColumn filter.key) := by
  obtain ⟨part, member, deeper⟩ := List.mem_flatMap.1 inside
  rw [condition_eq] at member
  obtain ⟨filter, taken, translated⟩ := List.mem_filterMap.1 member
  obtain ⟨listed, takes⟩ := List.mem_filter.1 taken
  exact ⟨filter, listed, takes, translation?_column translated leaf deeper⟩

/-- A query is sorted by columns of the table that it describes. -/
theorem table_of_order {key : SortKey} (inside : key ∈ query.order dialect) :
    key.column.table = some query.sortReference := by
  unfold Query.order at inside
  split at inside
  · split at inside
    · split at inside
      · rw [List.mem_singleton.1 inside]
      · cases inside
    · cases inside
  · obtain ⟨entry, _, rfl⟩ := List.mem_map.1 inside
    rfl

theorem sortReference_eq (described : ∀ table ∈ query.table?, table.name = query.tableName) :
    query.sortReference = query.aliasOf query.tableName := by
  unfold Query.sortReference
  cases known : query.table? with
  | none => rfl
  | some table => rw [Option.map_some, Option.getD_some, described table known]

theorem page_inScope (dialect : Dialect) (window : Window)
    (described : ∀ table ∈ query.table?, table.name = query.tableName) :
    (query.pageClauses dialect window).InScope query.pageTable.reference := by
  have reference : query.pageTable.reference = query.aliasOf query.tableName :=
    reference_table query query.tableName
  refine ⟨trivial, fun leaf inside column found => ?_, fun key inside => ?_⟩
  · obtain ⟨filter, _, own, on⟩ := column_of_condition inside
    have bare : Key.isRelated filter.key = false := by simpa [Pass.takes] using own
    rw [on, Option.mem_some_iff] at found
    refine ⟨_, List.mem_cons_self, ?_⟩
    rw [← found, Query.filterColumn, bare, reference]
    rfl
  · exact ⟨_, List.mem_cons_self, by rw [table_of_order inside, sortReference_eq described, reference]⟩

/-- Around the page, the table of the query and those of its routes are declared. -/
theorem declared_outer (dialect : Dialect) (cap : Nat) {joins : List Join}
    (joined : query.joins = .ok joins) :
    (query.outerClauses dialect cap joins).declared (query.aliasOf query.tableName) =
      query.declaredTables.map query.aliasOf := by
  rw [Query.declaredTables, List.map_cons, ← references_of_joins joined]
  rfl

theorem outer_inScope (dialect : Dialect) (cap : Nat) {joins : List Join}
    (joined : query.joins = .ok joins) (own : query.SpeaksOfItsTables) :
    (query.outerClauses dialect cap joins).InScope (query.aliasOf query.tableName) := by
  obtain ⟨parts, grouped, flattened⟩ := Query.ok_of_map_ok joined
  refine ⟨?_, fun leaf inside column found => ?_, fun key inside => ?_⟩
  · have sorted := route_of_group query.relationships
    have ofRoutes := joinsInScope_groups grouped sorted List.mem_cons_self own.edges
    rwa [← flattened] at ofRoutes
  · obtain ⟨filter, listed, related, on⟩ := column_of_condition inside
    have dotted : Key.isRelated filter.key = true := related
    rw [on, Option.mem_some_iff] at found
    rw [declared_outer dialect cap joined, ← found, Query.filterColumn, dotted]
    exact ⟨_, List.mem_map_of_mem (own.filters filter listed dotted), rfl⟩
  · simp only [Query.outerClauses] at inside
    split at inside
    · have sorted := table_of_order inside
      rw [sortReference_eq own.described] at sorted
      exact ⟨_, List.mem_cons_self, sorted⟩
    · cases inside

end

/-- A read whose query speaks of its own tables has every column in scope. On the
page, conditions and sorts are on the one table that the page is taken from; around
it they are on the page or on a joined table, and a join compares columns of what is
declared up to this join. -/
theorem read_columns_in_scope {compiler : Compiler} {query : Query} {compiled : Compiled}
    (reads : query.operation = .read) (compiles : compiler.compile query = .ok compiled)
    (own : query.SpeaksOfItsTables) :
    ∃ page outer,
      query.plan compiler.dialect compiler.rowCap compiler.returning =
        .ok (.select (.derived (.table query.pageTable page) (query.aliasOf query.tableName) outer)) ∧
      compiled = compiler.write .read (.select (.derived (.table query.pageTable page)
        (query.aliasOf query.tableName) outer)) ∧
      page.declared query.pageTable.reference = [query.pageTable.reference] ∧
      outer.declared (query.aliasOf query.tableName) = query.declaredTables.map query.aliasOf ∧
      (Select.derived (.table query.pageTable page) (query.aliasOf query.tableName) outer).InScope := by
  obtain ⟨window, joins, _, _, joined, rfl, planned, written⟩ := Query.read_ok reads compiles
  exact ⟨_, _, planned, written, rfl, declared_outer _ _ joined,
    page_inScope _ window own.described, outer_inScope _ _ joined own⟩

/-- Orders with their customers, the regions of the customers, and the products on
their lines, filtered and sorted under aliases. -/
def ordersByRegion : Query :=
  { Query.plain "orders" .read with
    aliases := .ofList [("orders", "o"), ("customers", "c"), ("lines", "lines")]
    relationships := [.direct "customers" "customer_id" "id",
      { Relationship.direct "regions" "region_id" "id" with fromTable := some "customers" },
      .via "products" "lines" "id" "order_id" "id" "product_id"]
    filters := some ⟨false, [⟨"state", .equal (.string "new")⟩,
      ⟨"1:customers.city", .equal (.string "Graz")⟩, ⟨"orders.paid", .empty⟩,
      ⟨"lines.amount", .notEmpty⟩]⟩
    sort := some [("day", .descending)] }

theorem orders_by_region_in_scope :
    ordersByRegion.operation = .read ∧ ordersByRegion.SpeaksOfItsTables ∧
      ∃ compiled, (Compiler.of .oracle 10).compile ordersByRegion = .ok compiled ∧
        ∃ page outer, compiled = (Compiler.of .oracle 10).write .read
            (.select (.derived (.table ordersByRegion.pageTable page) "o" outer)) ∧
          outer.declared "o" = ["o", "c", "regions", "lines", "products"] ∧
          (Select.derived (.table ordersByRegion.pageTable page) "o" outer).InScope := by
  have own : ordersByRegion.SpeaksOfItsTables :=
    ⟨by decide, by decide +kernel, by decide⟩
  have compiles : (Compiler.of .oracle 10).compile ordersByRegion = .ok _ := rfl
  obtain ⟨page, outer, _, written, _, declared, inScope⟩ := read_columns_in_scope rfl compiles own
  exact ⟨rfl, own, _, compiles, page, outer, written, declared, inScope⟩

end Polyquery
