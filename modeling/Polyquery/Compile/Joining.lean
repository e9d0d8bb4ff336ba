import Polyquery.Error
import Polyquery.Query.Basic
import Polyquery.Sql.Select

/-! Joins of related tables. All edges to one destination over the same join
table make one join, in the order in which the groups first appear. -/
namespace Polyquery
open Sql

/-- What the edges of one join have in common. -/
structure Route where
  destination : String
  through : Option String
  deriving DecidableEq

def Relationship.route (edge : Relationship) : Route := ⟨edge.toTable, edge.through⟩

/-- Groups of edges, with an index of their positions. -/
structure Grouping where
  groups : List (Route × List Relationship)
  positions : List (Route × Nat)
  /-- The index has each route at the position of its group. -/
  found : ∀ route, positions.lookup route = groups.findIdx? (·.1 = route)

namespace Grouping

def empty : Grouping := ⟨[], [], fun _ => rfl⟩

/-- More edges in a group do not move it. -/
theorem findIdx?_modify (groups : List (Route × List Relationship)) (position : Nat)
    (f : List Relationship → List Relationship) (route : Route) :
    (groups.modify position fun group => (group.1, f group.2)).findIdx? (·.1 = route) =
      groups.findIdx? (·.1 = route) := by
  induction groups generalizing position with
  | nil => simp
  | cons group rest ih => cases position <;> simp [List.findIdx?_cons, ih]

/-- A new group is found at the end. -/
theorem lookup_behind (grouping : Grouping) {new : Route}
    (unknown : grouping.positions.lookup new = none) (edges : List Relationship) (route : Route) :
    ((new, grouping.groups.length) :: grouping.positions).lookup route =
      (grouping.groups ++ [(new, edges)]).findIdx? (·.1 = route) := by
  rw [grouping.found] at unknown
  rw [List.lookup_cons, grouping.found, List.findIdx?_append]
  by_cases same : route = new
  · subst same
    simp [unknown]
  · rw [beq_eq_false_iff_ne.2 same]
    simp [Ne.symm same]

/-- The groups with one more edge, in the group of its route or a new one at the end. -/
def add (grouping : Grouping) (edge : Relationship) : Grouping :=
  match known : grouping.positions.lookup edge.route with
  | some position =>
    ⟨grouping.groups.modify position fun group => (group.1, group.2 ++ [edge]),
      grouping.positions,
      fun route => by rw [findIdx?_modify _ _ (· ++ [edge]), grouping.found]⟩
  | none =>
    ⟨grouping.groups ++ [(edge.route, [edge])],
      (edge.route, grouping.groups.length) :: grouping.positions,
      grouping.lookup_behind known [edge]⟩

end Grouping

/-- The edges by route, routes and edges in order of first appearance. -/
def groupByRoute (edges : List Relationship) : List (Route × List Relationship) :=
  (edges.foldl Grouping.add .empty).groups

/-- Where joined tables are declared, and the table that edges leave by
default. -/
structure JoinScope where
  base : String
  schema : Option String
  aliases : Dictionary String

namespace JoinScope

def table (scope : JoinScope) (name : String) : TableRef :=
  (TableRef.mk name scope.schema none).withAlias (scope.aliases.get? name)

def reference (scope : JoinScope) (name : String) : String := (scope.aliases.get? name).getD name

/-- The reference of the table that an edge leaves. -/
def source (scope : JoinScope) (edge : Relationship) : String :=
  scope.reference (edge.fromTable.getD scope.base)

/-- The equality of a direct edge. -/
def directEquality (scope : JoinScope) (edge : Relationship) : ColumnRef × ColumnRef :=
  (⟨some (scope.source edge), edge.fromColumn⟩, ⟨some (scope.reference edge.toTable), edge.toColumn⟩)

/-- The two equalities of an edge through a join table: from the first table to
the join table and from the second table to it. -/
def throughEqualities (scope : JoinScope) (through : String) (edge : Relationship) :
    Except Error ((ColumnRef × ColumnRef) × (ColumnRef × ColumnRef)) :=
  match edge.fromPrimary, edge.toPrimary with
  | some fromPrimary, some toPrimary =>
    .ok ((⟨some (scope.source edge), fromPrimary⟩, ⟨some (scope.reference through), edge.fromColumn⟩),
      (⟨some (scope.reference edge.toTable), toPrimary⟩, ⟨some (scope.reference through), edge.toColumn⟩))
  | _, _ => .error (.unusable (.throughWithoutPrimaries edge.toTable through))

/-- The joins of a group of edges. -/
def joins (scope : JoinScope) (route : Route) (edges : List Relationship) :
    Except Error (List Join) :=
  match route.through with
  | none => .ok [⟨scope.table route.destination, edges.map scope.directEquality⟩]
  | some through => do
    let pairs ← edges.mapM (scope.throughEqualities through)
    .ok [⟨scope.table through, pairs.map Prod.fst⟩, ⟨scope.table route.destination, pairs.map Prod.snd⟩]

end JoinScope

/-- The select joined with related tables and capped. Without relationships it
stays as it is. -/
def Sql.Select.joined (select : Select) (scope : JoinScope) (edges : List Relationship) (cap : Nat) :
    Except Error Select :=
  if edges.isEmpty then .ok select
  else do
    let joins ← (groupByRoute edges).mapM fun (route, edges) => scope.joins route edges
    .ok ((joins.flatten.foldl Select.join select).limit cap)

end Polyquery
