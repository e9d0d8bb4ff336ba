import Polyquery.Proofs.Refusals

/-! How the edges of a query are joined. The routes of the edges are joined in the
order in which they first appear, and the joins of a route compare the columns of all
edges on it, one equality for each, in the order of the query. So every edge is joined
once and on its own route, however the routes are mixed. Only an edge through a join
table that lacks one of its primary columns cannot be joined, and then nothing is. -/
namespace Polyquery
open Sql

/-! ## Groups -/

/-- The routes of edges, in order of first appearance. -/
def routesOf (edges : List Relationship) : List Route := (edges.map Relationship.route).eraseDups

/-- The edges on a route, in their order. -/
def edgesOn (route : Route) (edges : List Relationship) : List Relationship :=
  edges.filter (·.route = route)

section
variable {edges : List Relationship} {edge : Relationship} {route : Route}

theorem mem_routesOf : route ∈ routesOf edges ↔ ∃ edge ∈ edges, edge.route = route := by
  simp [routesOf]

theorem edgesOn_eq_nil (unknown : route ∉ routesOf edges) : edgesOn route edges = [] := by
  refine List.filter_eq_nil_iff.2 fun edge member => ?_
  simpa using fun same => unknown (mem_routesOf.2 ⟨edge, member, same⟩)

theorem edgesOn_concat_of_ne (other : route ≠ edge.route) :
    edgesOn route (edges ++ [edge]) = edgesOn route edges := by
  simp [edgesOn, other.symm]

theorem edgesOn_concat_self : edgesOn edge.route (edges ++ [edge]) = edgesOn edge.route edges ++ [edge] := by
  simp [edgesOn]

theorem routesOf_concat (edges : List Relationship) (edge : Relationship) :
    routesOf (edges ++ [edge]) =
      if edge.route ∈ routesOf edges then routesOf edges else routesOf edges ++ [edge.route] := by
  unfold routesOf
  rw [List.map_append, List.eraseDups_append]
  by_cases member : edge.route ∈ edges.map Relationship.route
  · have again : ([edge].map Relationship.route).removeAll (edges.map Relationship.route) = [] := by
      simp [-List.mem_map, List.removeAll, member]
    rw [if_pos (List.mem_eraseDups.2 member), again, List.eraseDups_nil, List.append_nil]
  · have new : ([edge].map Relationship.route).removeAll (edges.map Relationship.route) =
        [edge.route] := by
      simp [-List.mem_map, List.removeAll, member]
    rw [if_neg (mt List.mem_eraseDups.1 member), new]
    rfl

/-- One more edge joins the others on its route, or is the first on a new one. -/
theorem addEdge_groups (edges : List Relationship) (edge : Relationship) {routes : List Route}
    (distinct : routes.Nodup) (first : edge.route ∉ routes → edgesOn edge.route edges = []) :
    addEdge edge (routes.map fun route => (route, edgesOn route edges)) =
      (if edge.route ∈ routes then routes else routes ++ [edge.route]).map fun route =>
        (route, edgesOn route (edges ++ [edge])) := by
  induction routes with
  | nil => simp [addEdge, edgesOn_concat_self, first]
  | cons route rest ih =>
    obtain ⟨new, others⟩ := List.nodup_cons.1 distinct
    rw [List.map_cons, addEdge]
    by_cases same : route = edge.route
    · have unchanged : ∀ other ∈ rest, edgesOn other (edges ++ [edge]) = edgesOn other edges :=
        fun other member => edgesOn_concat_of_ne fun equal => new (same ▸ equal ▸ member)
      simp only [same, ↓reduceIte, List.mem_cons, true_or, List.map_cons, edgesOn_concat_self,
        List.cons.injEq, true_and]
      exact List.map_congr_left fun other member => by rw [unchanged other member]
    · have following := ih others fun absent => first (by simp [absent, Ne.symm same])
      simp only [same, ↓reduceIte, List.mem_cons, Ne.symm same, false_or, following]
      split <;> simp [edgesOn_concat_of_ne same]

/-- Every route has its edges, and routes as well as edges are in order of first
appearance. -/
theorem groupByRoute_eq (edges : List Relationship) :
    groupByRoute edges = (routesOf edges).map fun route => (route, edgesOn route edges) := by
  induction edges using List.reverseRecOn with
  | nil => rfl
  | append_singleton edges edge ih =>
    have distinct := nodup_groups edges
    rw [ih, List.map_map, Function.comp_def, List.map_id'] at distinct
    rw [groupByRoute_concat, ih, addEdge_groups edges edge distinct edgesOn_eq_nil, routesOf_concat]

theorem routesOf_nodup (edges : List Relationship) : (routesOf edges).Nodup := by
  have distinct := nodup_groups edges
  rwa [groupByRoute_eq, List.map_map, Function.comp_def, List.map_id'] at distinct

/-- On all routes together there are the edges, none of them twice. -/
theorem edgesOn_perm (edges : List Relationship) :
    ((routesOf edges).flatMap fun route => edgesOn route edges).Perm edges := by
  have grouped := edges_groupByRoute edges
  rwa [groupByRoute_eq, List.flatMap_map] at grouped

end

/-! ## Joins -/

/-- An edge through a join table without one of its primary columns. -/
def Relationship.lacksPrimary (edge : Relationship) : Bool :=
  edge.through.isSome && (edge.fromPrimary.isNone || edge.toPrimary.isNone)

namespace JoinScope
variable {scope : JoinScope} {route : Route} {edges : List Relationship}

/-- The joins of a route. A direct one compares the two columns of each edge; one
through a join table compares there the primary column of the table that the edge
leaves, and then the one of the destination. -/
def routeJoins (scope : JoinScope) (route : Route) (edges : List Relationship) : List Join :=
  match route.through with
  | none =>
    [⟨scope.table route.destination, edges.map fun edge =>
      (⟨some (scope.source edge), edge.fromColumn⟩,
        ⟨some (scope.reference route.destination), edge.toColumn⟩)⟩]
  | some through =>
    [⟨scope.table through, edges.map fun edge =>
        (⟨some (scope.source edge), edge.fromPrimary.getD ""⟩,
          ⟨some (scope.reference through), edge.fromColumn⟩)⟩,
      ⟨scope.table route.destination, edges.map fun edge =>
        (⟨some (scope.reference route.destination), edge.toPrimary.getD ""⟩,
          ⟨some (scope.reference through), edge.toColumn⟩)⟩]

/-- A query with these edges that refers to its tables as the scope does. -/
def queryOf (scope : JoinScope) (edges : List Relationship) : Query :=
  { Query.plain scope.base .read with
    endpoint := ⟨"", scope.base, .read, scope.schema⟩
    aliases := scope.aliases
    relationships := edges }

/-- With all primary columns there, the edges of a route are joined. -/
theorem joins_eq_ok (complete : ∀ edge ∈ edges, edge.lacksPrimary = false)
    (own : ∀ edge ∈ edges, edge.route = route) :
    scope.joins route edges = .ok (scope.routeJoins route edges) := by
  unfold joins routeJoins
  cases via : route.through with
  | none =>
    have equalities : edges.map scope.directEquality = edges.map fun edge =>
        (⟨some (scope.source edge), edge.fromColumn⟩,
          ⟨some (scope.reference route.destination), edge.toColumn⟩) :=
      List.map_congr_left fun edge member => by rw [directEquality, ← own edge member]; rfl
    rw [equalities]
  | some through =>
    have pairs : edges.mapM (scope.throughEqualities through) = .ok (edges.map fun edge =>
        ((⟨some (scope.source edge), edge.fromPrimary.getD ""⟩,
            ⟨some (scope.reference through), edge.fromColumn⟩),
          (⟨some (scope.reference route.destination), edge.toPrimary.getD ""⟩,
            ⟨some (scope.reference through), edge.toColumn⟩))) := by
      refine Query.mapM_ok_of_forall fun edge member => ?_
      have here : edge.through = some through := by rw [← via, ← own edge member]; rfl
      have destination : edge.toTable = route.destination := by rw [← own edge member]; rfl
      have both := complete edge member
      rw [Relationship.lacksPrimary, here] at both
      unfold throughEqualities
      cases from? : edge.fromPrimary <;> cases to? : edge.toPrimary <;> simp_all
    simp [pairs, bind, Except.bind]

end JoinScope

/-- The joins of complete edges: those of each route, one route after the other. -/
theorem joins_of_complete {query : Query}
    (complete : ∀ edge ∈ query.relationships, edge.lacksPrimary = false) :
    query.joins = .ok ((routesOf query.relationships).flatMap fun route =>
      query.joinScope.routeJoins route (edgesOn route query.relationships)) := by
  have each : ∀ group ∈ groupByRoute query.relationships,
      query.joinScope.joins group.1 group.2 = .ok (query.joinScope.routeJoins group.1 group.2) := by
    rw [groupByRoute_eq]
    refine List.forall_mem_map.2 fun route _ => JoinScope.joins_eq_ok (fun edge inside => ?_)
      fun edge inside => ?_
    · exact complete edge (List.mem_filter.1 inside).1
    · exact of_decide_eq_true (List.mem_filter.1 inside).2
  rw [Query.joins, Query.mapM_ok_of_forall each, groupByRoute_eq, List.map_map]
  rfl

/-- An edge that lacks a primary column makes an error, which names such an edge. -/
theorem joins_of_lacking {query : Query} {edge : Relationship} (member : edge ∈ query.relationships)
    (lacks : edge.lacksPrimary = true) :
    ∃ bad ∈ query.relationships, ∃ through, bad.lacksPrimary = true ∧ bad.through = some through ∧
      query.joins = .error (.unusable (.throughWithoutPrimaries bad.toTable through)) := by
  have parts := lacks
  simp only [Relationship.lacksPrimary, Bool.and_eq_true, Option.isSome_iff_exists, Bool.or_eq_true,
    Option.isNone_iff_eq_none] at parts
  obtain ⟨⟨through, via⟩, primaries⟩ := parts
  obtain ⟨error, failed⟩ := joins_fail member via primaries
  obtain ⟨bad, inside, middle, leads, missing, rfl⟩ := edge_of_joins_error failed
  refine ⟨bad, inside, middle, ?_, leads, failed⟩
  simpa [Relationship.lacksPrimary, leads] using missing

/-- If no edge lacks a primary column, the joins of a select grow by those of the
routes, in order of first appearance: on each route one join to the destination, or one
to the join table and one from there to the destination, which compare the columns of
each edge on the route, in the order of the edges. The select is limited to the cap as
soon as there is an edge, and nothing else changes. Every edge is on one route, so none
is lost and none is joined twice. If an edge lacks a primary column, there is an error
that names such an edge. -/
theorem every_edge_is_joined_once (select : Select) (scope : JoinScope) (edges : List Relationship)
    (cap : Nat) :
    ((∀ edge ∈ edges, edge.lacksPrimary = false) →
      select.joined scope edges cap = .ok (select.mapClauses fun clauses =>
        { clauses with
          joins := clauses.joins ++ (routesOf edges).flatMap fun route =>
            scope.routeJoins route (edgesOn route edges)
          limit := if edges.isEmpty then clauses.limit else some cap })) ∧
    (routesOf edges).Nodup ∧
    ((routesOf edges).flatMap fun route => edgesOn route edges).Perm edges ∧
    ∀ edge ∈ edges, edge.lacksPrimary = true →
      ∃ bad ∈ edges, ∃ through, bad.lacksPrimary = true ∧ bad.through = some through ∧
        select.joined scope edges cap =
          .error (.unusable (.throughWithoutPrimaries bad.toTable through)) := by
  have joined : select.joined scope edges cap = _ := (scope.queryOf edges).joined_eq select cap
  refine ⟨fun complete => ?_, routesOf_nodup edges, edgesOn_perm edges, fun edge member lacks => ?_⟩
  · have joins : (scope.queryOf edges).joins = _ := joins_of_complete complete
    rw [joined, joins]
    rfl
  · have given : _ ∈ (scope.queryOf edges).relationships := member
    obtain ⟨bad, inside, through, missing, via, failed⟩ := joins_of_lacking given lacks
    refine ⟨bad, inside, through, missing, via, ?_⟩
    rw [joined, failed]
    rfl

/-- Two routes in turns, the second one through a join table. -/
def tasksAndProducts : List Relationship :=
  [.direct "tasks" "id" "person_id",
    .via "products" "lines" "id" "order_id" "id" "product_id",
    { Relationship.direct "tasks" "id" "reviewer_id" with fromTable := some "managers" },
    .via "products" "lines" "code" "order_code" "key" "product_key"]

theorem tasks_and_products_are_joined_once :
    let scope : JoinScope := ⟨"persons", some "work", .ofList [("persons", "p"), ("lines", "l")]⟩
    let page := Select.ofTable ⟨"persons", none, none⟩
    let lacking : Relationship := ⟨none, "products", some "lines", "a", "b", some "id", none⟩
    (∀ edge ∈ tasksAndProducts, edge.lacksPrimary = false) ∧
      page.joined scope tasksAndProducts 10 = .ok (page.mapClauses fun clauses =>
        { clauses with
          joins := [
            ⟨⟨"tasks", some "work", none⟩,
              [(⟨some "p", "id"⟩, ⟨some "tasks", "person_id"⟩),
                (⟨some "managers", "id"⟩, ⟨some "tasks", "reviewer_id"⟩)]⟩,
            ⟨⟨"lines", some "work", some "l"⟩,
              [(⟨some "p", "id"⟩, ⟨some "l", "order_id"⟩),
                (⟨some "p", "code"⟩, ⟨some "l", "order_code"⟩)]⟩,
            ⟨⟨"products", some "work", none⟩,
              [(⟨some "products", "id"⟩, ⟨some "l", "product_id"⟩),
                (⟨some "products", "key"⟩, ⟨some "l", "product_key"⟩)]⟩]
          limit := some 10 }) ∧
      lacking.lacksPrimary = true ∧
      ∃ bad ∈ [lacking], ∃ through, bad.through = some through ∧
        page.joined scope [lacking] 10 =
          .error (.unusable (.throughWithoutPrimaries bad.toTable through)) := by
  intro scope page lacking
  have complete : ∀ edge ∈ tasksAndProducts, edge.lacksPrimary = false := by decide
  have joined := (every_edge_is_joined_once page scope tasksAndProducts 10).1 complete
  obtain ⟨bad, inside, through, _, via, failed⟩ :=
    (every_edge_is_joined_once page scope [lacking] 10).2.2.2 lacking (by decide) (by decide)
  exact ⟨complete, joined, by decide, bad, inside, through, via, failed⟩

end Polyquery
