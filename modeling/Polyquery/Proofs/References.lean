import Mathlib.Data.List.Induction
import Polyquery.Proofs.Plans

/-! The names under which a read declares its tables. The page has the name of its
table, and behind it stand, route by route, the join table and the destination,
each under its alias or its real name. Aliases belong to tables and not to joins:
a name is there twice exactly if a table is. So it is with a table that is its own
destination, with a destination on two routes, and with a join table that leads to
several destinations. -/
namespace Polyquery
open Sql

/-! ## Routes -/

/-- The tables that are joined on a route. -/
def Route.tables (route : Route) : List String := route.through.toList ++ [route.destination]

/-- The routes of a query, in the order in which they are joined. -/
def Query.routes (query : Query) : List Route := (groupByRoute query.relationships).map Prod.fst

/-- The tables that the select around the page declares. -/
def Query.declaredTables (query : Query) : List String :=
  query.tableName :: query.routes.flatMap Route.tables

/-- Groups with one more edge, in the first group of its route or a new one at the end. -/
def addEdge (edge : Relationship) : List (Route × List Relationship) → List (Route × List Relationship)
  | [] => [(edge.route, [edge])]
  | (route, edges) :: rest =>
    if route = edge.route then (route, edges ++ [edge]) :: rest
    else (route, edges) :: addEdge edge rest

theorem addEdge_eq_findIdx? (edge : Relationship) (groups : List (Route × List Relationship)) :
    addEdge edge groups = match groups.findIdx? (·.1 = edge.route) with
      | some position => groups.modify position fun group => (group.1, group.2 ++ [edge])
      | none => groups ++ [(edge.route, [edge])] := by
  induction groups with
  | nil => rfl
  | cons group rest ih =>
    rw [addEdge, List.findIdx?_cons, ih]
    by_cases same : group.1 = edge.route
    · simp [same]
    · cases rest.findIdx? (·.1 = edge.route) <;> simp [same]

/-- The index finds the group that a search of the list finds. -/
theorem groups_add (grouping : Grouping) (edge : Relationship) :
    (grouping.add edge).groups = addEdge edge grouping.groups := by
  rw [addEdge_eq_findIdx?, ← grouping.found]
  unfold Grouping.add
  split <;> simp only [*]

/-- Grouping goes on with the groups so far. -/
theorem groupByRoute_concat (edges : List Relationship) (edge : Relationship) :
    groupByRoute (edges ++ [edge]) = addEdge edge (groupByRoute edges) := by
  simp only [groupByRoute, List.foldl_append, List.foldl_cons, List.foldl_nil, groups_add]

/-- One more edge adds its route, unless it is there. -/
theorem routes_addEdge (edge : Relationship) (groups : List (Route × List Relationship)) :
    (addEdge edge groups).map Prod.fst =
      if edge.route ∈ groups.map Prod.fst then groups.map Prod.fst
      else groups.map Prod.fst ++ [edge.route] := by
  induction groups with
  | nil => simp [addEdge]
  | cons group rest ih =>
    obtain ⟨route, edges⟩ := group
    rw [addEdge]
    by_cases same : route = edge.route
    · simp [same]
    · simp only [same, ↓reduceIte, List.map_cons, ih, List.mem_cons, Ne.symm same, false_or]
      split <;> simp

theorem nodup_addEdge (edge : Relationship) {groups : List (Route × List Relationship)}
    (distinct : (groups.map Prod.fst).Nodup) : ((addEdge edge groups).map Prod.fst).Nodup := by
  rw [routes_addEdge]
  split
  · exact distinct
  · next new =>
    refine List.nodup_append.2 ⟨distinct, by simp, fun route known other last same => ?_⟩
    rw [List.mem_singleton.1 last] at same
    exact new (same ▸ known)

theorem mem_addEdge (edge : Relationship) (groups : List (Route × List Relationship)) (route : Route) :
    route ∈ (addEdge edge groups).map Prod.fst ↔
      route ∈ groups.map Prod.fst ∨ edge.route = route := by
  rw [routes_addEdge]
  split
  · next known => exact ⟨.inl, fun either => either.elim id fun same => same ▸ known⟩
  · rw [List.mem_append, List.mem_singleton, eq_comm]

/-- There is one group for each route. -/
theorem nodup_groups (edges : List Relationship) : ((groupByRoute edges).map Prod.fst).Nodup := by
  induction edges using List.reverseRecOn with
  | nil => exact List.nodup_nil
  | append_singleton edges edge ih =>
    rw [groupByRoute_concat]
    exact nodup_addEdge edge ih

/-- A query has a route for each two of a destination and a join table that its
edges have. -/
theorem mem_routes {query : Query} {route : Route} :
    route ∈ query.routes ↔ ∃ edge ∈ query.relationships, edge.route = route := by
  unfold Query.routes
  induction query.relationships using List.reverseRecOn with
  | nil => simp [groupByRoute, Grouping.empty]
  | append_singleton edges edge ih =>
    rw [groupByRoute_concat, mem_addEdge, ih]
    simp [or_and_right, exists_or]

/-! ## Names -/

/-- The names under which a select declares its tables. -/
def Sql.Select.names : Select → List String
  | .table source clauses => source.reference :: clauses.joins.map (·.table.reference)
  | .derived _ label clauses => label :: clauses.joins.map (·.table.reference)

/-- A joined table has the name by which the query refers to it. -/
theorem reference_table (query : Query) (name : String) :
    (query.joinScope.table name).reference = query.aliasOf name := by
  unfold JoinScope.table TableRef.withAlias TableRef.reference Query.aliasOf Query.joinScope
  cases query.aliases.get? name with
  | none => rfl
  | some label => by_cases own : label = name <;> simp [Option.filter, own]

theorem references_joins {query : Query} {route : Route} {edges : List Relationship}
    {joins : List Join} (joined : query.joinScope.joins route edges = .ok joins) :
    joins.map (·.table.reference) = route.tables.map query.aliasOf := by
  rcases Query.joins_ok joined with ⟨direct, rfl⟩ | ⟨through, pairs, via, _, rfl⟩
  · simp [Route.tables, direct, reference_table]
  · simp [Route.tables, via, reference_table]

theorem references_groups {query : Query} {groups : List (Route × List Relationship)}
    {parts : List (List Join)}
    (joined : groups.mapM (fun group => query.joinScope.joins group.1 group.2) = .ok parts) :
    parts.flatten.map (·.table.reference) =
      ((groups.map Prod.fst).flatMap Route.tables).map query.aliasOf := by
  induction groups generalizing parts with
  | nil =>
    cases joined
    rfl
  | cons group rest ih =>
    obtain ⟨joins, more, first, others, rfl⟩ := Query.cons_of_mapM_ok joined
    simp only [List.flatten_cons, List.map_append, references_joins first, ih others, List.map_cons,
      List.flatMap_cons]

/-- The joins of a query declare the tables of its routes, one route after the
other. -/
theorem references_of_joins {query : Query} {joins : List Join} (joined : query.joins = .ok joins) :
    joins.map (·.table.reference) = (query.routes.flatMap Route.tables).map query.aliasOf := by
  obtain ⟨parts, grouped, rfl⟩ := Query.ok_of_map_ok joined
  exact references_groups grouped

/-- Aliases that keep apart: the alias of a declared table is neither the alias nor
the real name of another one. -/
def Query.AliasesApart (query : Query) : Prop :=
  ∀ table ∈ query.declaredTables, ∀ other ∈ query.declaredTables, table ≠ other →
    ∀ label ∈ query.aliases.get? table, label ≠ other ∧ label ∉ query.aliases.get? other

instance (query : Query) : Decidable query.AliasesApart :=
  inferInstanceAs (Decidable (∀ table ∈ query.declaredTables, ∀ other ∈ query.declaredTables,
    table ≠ other → ∀ label ∈ query.aliases.get? table,
      label ≠ other ∧ label ∉ query.aliases.get? other))

/-- Then no two tables have one name. -/
theorem aliasOf_injective {query : Query} (apart : query.AliasesApart) {table other : String}
    (declared : table ∈ query.declaredTables) (also : other ∈ query.declaredTables)
    (same : query.aliasOf table = query.aliasOf other) : table = other := by
  by_cases equal : table = other
  · exact equal
  · have forth := apart table declared other also equal
    have back := apart other also table declared (Ne.symm equal)
    unfold Query.aliasOf at same
    cases own : query.aliases.get? table with
    | none =>
      cases others : query.aliases.get? other with
      | none => simpa [own, others] using same
      | some label =>
        rw [own, others] at same
        exact absurd same.symm (back label others).1
    | some label =>
      cases others : query.aliases.get? other with
      | none =>
        rw [own, others] at same
        exact absurd same (forth label own).1
      | some second =>
        rw [own, others] at same
        exact absurd (others.trans (congrArg some same.symm)) (forth label own).2

/-- Names of different tables are different. -/
theorem nodup_map_iff {tables : List String} {name : String → String}
    (injective : ∀ table ∈ tables, ∀ other ∈ tables, name table = name other → table = other) :
    (tables.map name).Nodup ↔ tables.Nodup := by
  induction tables with
  | nil => simp
  | cons table rest ih =>
    have others := ih fun one inside other also =>
      injective one (by simp [inside]) other (by simp [also])
    have new : name table ∉ rest.map name ↔ table ∉ rest := by
      refine not_congr ⟨fun inside => ?_, List.mem_map_of_mem⟩
      obtain ⟨other, member, same⟩ := List.mem_map.1 inside
      rwa [injective table (by simp) other (by simp [member]) same.symm]
    rw [List.map_cons, List.nodup_cons, List.nodup_cons, new, others]

/-- The select around the page of a read declares the table of the query and the
tables of its routes, each under the name by which the query refers to it. If
aliases keep apart, a name belongs to one table, and it is there twice only if the
table is declared twice: each name is declared once exactly if no table is. -/
theorem read_names_its_tables {compiler : Compiler} {query : Query} {compiled : Compiled}
    (reads : query.operation = .read) (compiles : compiler.compile query = .ok compiled)
    (apart : query.AliasesApart) :
    ∃ read, query.plan compiler.dialect compiler.rowCap compiler.returning = .ok (.select read) ∧
      compiled = compiler.write .read (.select read) ∧
      query.routes.Nodup ∧
      (∀ route, route ∈ query.routes ↔ ∃ edge ∈ query.relationships, edge.route = route) ∧
      read.names = query.declaredTables.map query.aliasOf ∧
      (∀ table ∈ query.declaredTables, ∀ other ∈ query.declaredTables,
        query.aliasOf table = query.aliasOf other → table = other) ∧
      (read.names.Nodup ↔ query.declaredTables.Nodup) := by
  obtain ⟨plan, planned, written⟩ := Query.ok_of_map_ok compiles
  rw [reads] at written
  have selected := planned
  rw [Query.plan, reads] at selected
  obtain ⟨read, built, rfl⟩ := Query.ok_of_map_ok selected
  obtain ⟨window, joins, _, joined, rfl⟩ := Query.select_ok built
  have names : Select.names (.derived (.table query.pageTable
      (query.pageClauses compiler.dialect window)) (query.aliasOf query.tableName)
      (query.outerClauses compiler.dialect compiler.rowCap joins)) =
        query.declaredTables.map query.aliasOf := by
    rw [Query.declaredTables, List.map_cons, ← references_of_joins joined]
    rfl
  have injective : ∀ table ∈ query.declaredTables, ∀ other ∈ query.declaredTables,
      query.aliasOf table = query.aliasOf other → table = other :=
    fun _ declared _ also same => aliasOf_injective apart declared also same
  refine ⟨_, planned, written, nodup_groups query.relationships, fun _ => mem_routes, names,
    injective, ?_⟩
  rw [names]
  exact nodup_map_iff injective

/-- Orders with their customer and, through the lines of each, their products. -/
def ordersWithProducts : Query :=
  { Query.plain "orders" .read with
    aliases := .ofList [("orders", "o"), ("lines", "l")]
    relationships := [.direct "customers" "customer_id" "id",
      .via "products" "lines" "id" "order_id" "id" "product_id",
      .direct "customers" "payer_id" "id"] }

theorem orders_with_products_are_named_once :
    ordersWithProducts.operation = .read ∧ ordersWithProducts.AliasesApart ∧
      ∃ compiled, (Compiler.of .postgres 10).compile ordersWithProducts = .ok compiled ∧
        ∃ read, compiled = (Compiler.of .postgres 10).write .read (.select read) ∧
          read.names = ["o", "customers", "l", "products"] ∧ read.names.Nodup := by
  have apart : ordersWithProducts.AliasesApart := by decide +kernel
  have compiles : (Compiler.of .postgres 10).compile ordersWithProducts = .ok _ := rfl
  obtain ⟨read, _, written, _, _, names, _, once⟩ := read_names_its_tables rfl compiles apart
  exact ⟨rfl, apart, _, compiles, read, written, names, once.2 (by decide)⟩

/-- Persons with their managers, who are persons. -/
def personsWithManagers : Query :=
  { Query.plain "persons" .read with
    relationships := [.direct "persons" "manager_id" "id"] }

/-- Not every read declares each name once, even without aliases: of a table that is
its own destination there are two under one name. -/
theorem own_destination_is_named_twice :
    (∃ compiled, (Compiler.of .postgres 5000).compile personsWithManagers = .ok compiled ∧
      compiled.text = "SELECT * FROM (SELECT * FROM \"persons\" LIMIT 5000) AS \"persons\"" ++
        " LEFT JOIN \"persons\" ON \"persons\".\"manager_id\" = \"persons\".\"id\" LIMIT 5000") ∧
    ¬ ∀ (compiler : Compiler) (query : Query) (compiled : Compiled), query.operation = .read →
      compiler.compile query = .ok compiled → query.aliases = .empty →
      ∃ read, query.plan compiler.dialect compiler.rowCap compiler.returning = .ok (.select read) ∧
        read.names.Nodup := by
  refine ⟨⟨_, rfl, by decide +kernel⟩, fun claimed => ?_⟩
  obtain ⟨read, planned, once⟩ := claimed (.of .postgres 5000) personsWithManagers _ rfl rfl rfl
  cases planned
  revert once
  decide

end Polyquery
