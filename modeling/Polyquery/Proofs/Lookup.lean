import Polyquery.Proofs.Execution
import Polyquery.Proofs.WriteFilters

/-! The read of one row. A lookup is a page of one row of the query's table, with
nothing around it. If its filter selects exactly one row, that is the row it
finds; and the filter on a key selects the row with this key. -/
namespace Polyquery
open Sql

namespace Engine

/-- The table is the one that a query is about, the query knows its key, and it
asks for whole rows. -/
structure Hosts (engine : Engine) (query : Query) : Prop where
  name : engine.name = query.tableName
  schema : engine.schema = query.endpoint.schema
  described : ∃ table, query.table? = some table ∧ table.name = engine.name ∧
    table.key? = some engine.key
  plainKey : Key.canonical engine.key = engine.key ∧ Key.isRelated engine.key = false
  wholeRows : query.fields.getD [] = []

end Engine

/-- Filters on the columns of the query's own table only. -/
def Filters.AreBare (filter : Filters Json) : Prop :=
  ∀ test ∈ filter.list, Key.isRelated test.key = false

instance (filter : Filters Json) : Decidable filter.AreBare :=
  inferInstanceAs (Decidable (∀ test ∈ filter.list, Key.isRelated test.key = false))

namespace Engine

/-- Whether a row meets the query's filters on its own table. -/
def reaches (engine : Engine) (query : Query) (dialect : Dialect) : Record Value → Bool :=
  engine.meets dialect (query.condition dialect .base .empty)

/-- The rows that the query is about. -/
def selected (engine : Engine) (query : Query) (dialect : Dialect) (rows : List (Record Value)) :
    List (Record Value) :=
  rows.filter (engine.reaches query dialect)

section
variable {engine : Engine} {query : Query} {dialect : Dialect} {filter : Filters Json}
  {contents : engine.Contents}

/-- The condition of a query is on the columns of its own table. -/
theorem condition_isOf (query : Query) (dialect : Dialect) :
    (query.condition dialect .base .empty).isOf query.tableName = true := by
  rw [Condition.isOf, List.all_eq_true]
  intro leaf inside
  obtain ⟨part, member, deeper⟩ := List.mem_flatMap.1 inside
  rw [write_condition_eq] at member
  obtain ⟨filter, taken, translated⟩ := List.mem_filterMap.1 member
  have own : Key.isRelated filter.key = false := by simpa using (List.mem_filter.1 taken).2
  rw [translation?_column translated leaf deeper, unaliased_filterColumn own]
  simp [ColumnRef.isOf]

/-- A lookup through keys of its own table has no condition around its page. -/
theorem related_condition_isEmpty (bare : filter.AreBare) (query : Query) (dialect : Dialect) :
    ((query.lookup filter).condition dialect .related .empty).isEmpty = true := by
  have none : (filter.list.filter fun test => Key.isRelated test.key) = [] :=
    List.filter_eq_nil_iff.2 fun test member => by simp [bare test member]
  have condition := condition_eq (query.lookup filter) dialect .related
  have list : (query.lookup filter).filterList = filter.list := rfl
  simp only [Pass.takes, list, none, List.filterMap_nil] at condition
  exact congrArg Condition.isEmpty condition

/-- A lookup is sorted by columns of its own table, if at all. -/
theorem order_isOf (hosts : engine.Hosts query) (filter : Filters Json) (dialect : Dialect) :
    ((query.lookup filter).order dialect).all (·.column.isOf query.tableName) = true := by
  obtain ⟨table, known, named, keyed⟩ := hosts.described
  have described : (query.lookup filter).table? = some table := known
  have reference : (query.lookup filter).sortReference = query.tableName := by
    rw [Query.sortReference, described, ← hosts.name, ← named]
    rfl
  have unsorted : (query.lookup filter).sort.getD [] = [] := rfl
  rw [Query.order, unsorted, described, Option.bind_some, keyed, reference]
  simp only
  split <;> simp [ColumnRef.isOf]

/-- Clauses that one row meets, and no other, have this row. -/
theorem apply_single {declared : String} {clauses : Clauses} {rows : List (Record Value)}
    {row : Record Value} (areOf : clauses.areOf declared = true)
    (met : rows.filter (engine.meets dialect clauses.condition) = [row])
    (limit : clauses.limit = none ∨ clauses.limit = some 1) (offset : clauses.offset = none)
    (projection : clauses.projection = .all) :
    engine.apply dialect declared clauses rows = .ok [row] := by
  unfold apply
  rcases limit with limit | limit <;>
    simp [areOf, met, limit, offset, projection, Projection.of]

/-- The page of a lookup whose filter selects one row. -/
theorem page_single (hosts : engine.Hosts query) {row : Record Value}
    (selects : engine.selected (query.lookup filter) dialect contents.rows = [row]) :
    engine.apply dialect query.tableName ((query.lookup filter).pageClauses dialect ⟨1, none⟩)
      contents.rows = .ok [row] := by
  refine apply_single ?_ selects (.inr rfl) rfl rfl
  have ordered := order_isOf hosts filter dialect
  have condition : ((query.lookup filter).condition dialect .base
      (query.lookup filter).aliases).isOf query.tableName = true := condition_isOf _ dialect
  simp only [Clauses.areOf, Query.pageClauses, Projection.isOf, ordered, condition]
  rfl

/-- What is around the page lets its row through. -/
theorem outer_single (hosts : engine.Hosts query) (bare : filter.AreBare) (row : Record Value)
    (cap : Nat) :
    engine.apply dialect query.tableName ((query.lookup filter).outerClauses dialect cap []) [row] =
      .ok [row] := by
  have vacuous : ((query.lookup filter).condition dialect .related
      (query.lookup filter).aliases).isEmpty = true := related_condition_isEmpty bare query dialect
  have wholeRows : (query.lookup filter).projection dialect = .all := rfl
  refine apply_single ?_ ?_ (.inl rfl) rfl rfl
  · have ordered := order_isOf hosts filter dialect
    simp only [Clauses.areOf, Query.outerClauses, Condition.isOf, leaves_of_isEmpty vacuous, wholeRows]
    split
    · simpa [Projection.isOf] using ordered
    · rfl
  · simp [Query.outerClauses, meets, vacuous]

/-- The read of a row through a filter that selects exactly this one. -/
theorem lookup_found (hosts : engine.Hosts query) (bare : filter.AreBare) {row : Record Value}
    (selects : engine.selected (query.lookup filter) dialect contents.rows = [row]) (cap : Nat) :
    ∃ lookup, (query.lookup filter).planned (.of dialect cap) = .ok (.read, lookup) ∧
      serve dialect contents lookup = (.ok ⟨[Projection.all.shown row], none⟩, contents) := by
  refine ⟨_, by rw [Query.planned, Query.lookup_plan]; rfl, ?_⟩
  have known : engine.has (query.lookup filter).pageTable = true := by
    have table : (query.lookup filter).pageTable = ⟨query.tableName, query.endpoint.schema, none⟩ := rfl
    rw [table, has, hosts.name, hosts.schema]
    simp
  have found : engine.evaluate dialect contents.rows (.derived (.table (query.lookup filter).pageTable
      ((query.lookup filter).pageClauses dialect ⟨1, none⟩)) query.tableName
      ((query.lookup filter).outerClauses dialect cap [])) = .ok [row] := by
    rw [evaluate, evaluate, known]
    exact (congrArg (· >>= _) (page_single hosts selects)).trans (outer_single hosts bare row cap)
  exact congrArg (fun rows => (Except.map (fun found => Response.mk
    (found.map Projection.all.shown) none) rows, contents)) found

/-- What a lookup by key asks. -/
theorem key_condition (hosts : engine.Hosts query) (dialect : Dialect) {json : Json}
    (bound : Value.ofJson json ≠ .null) :
    (query.lookup (Query.equalFilter engine.key json)).condition dialect .base .empty =
      ⟨.and, [.compare ⟨some query.tableName, engine.key⟩ .equal (Value.ofJson json)]⟩ := by
  obtain ⟨plain, own⟩ := hosts.plainKey
  have column : (query.lookup (Query.equalFilter engine.key json)).unaliased.filterColumn engine.key =
      ⟨some query.tableName, engine.key⟩ := by
    rw [unaliased_filterColumn own, plain]
    rfl
  have translated : (query.lookup (Query.equalFilter engine.key json)).unaliased.translation? dialect
      ⟨engine.key, .equal json⟩ =
        some (.compare ⟨some query.tableName, engine.key⟩ .equal (Value.ofJson json)) := by
    rw [Query.translation?, column]
    cases normalized : Value.ofJson json <;> simp_all [Test.map, Test.predicate?]
  have list : (query.lookup (Query.equalFilter engine.key json)).filterList =
      [⟨engine.key, .equal json⟩] := rfl
  have connective : (query.lookup (Query.equalFilter engine.key json)).filterConnective = .and := rfl
  rw [write_condition_eq, list, connective]
  simp [own, translated]

/-- A row meets it exactly if it has this key. -/
theorem reaches_key (hosts : engine.Hosts query) (dialect : Dialect) {json : Json}
    (bound : Value.ofJson json ≠ .null) (row : Record Value) :
    engine.reaches (query.lookup (Query.equalFilter engine.key json)) dialect row = true ↔
      engine.keyOf? row = some (engine.identity (Value.ofJson json)) := by
  rw [reaches, key_condition hosts dialect bound, meets_leaf engine dialect .and rfl,
    engine.judge_key dialect row _ _ bound, keyOf?_eq_some]

/-- Of rows with different keys, one has the key of a given one. -/
theorem filter_key {f : Record Value → Option Value} {rows : List (Record Value)} {row : Record Value}
    (distinct : (rows.map f).Nodup) (member : row ∈ rows) {p : Record Value → Bool}
    (keyed : ∀ other, p other = true ↔ f other = f row) : rows.filter p = [row] := by
  obtain ⟨front, back, rfl⟩ := List.append_of_mem member
  rw [List.map_append, List.map_cons, List.nodup_append, List.nodup_cons] at distinct
  obtain ⟨_, ⟨fresh, _⟩, apart⟩ := distinct
  have before : front.filter p = [] := List.filter_eq_nil_iff.2 fun other inside => by
    rw [keyed]
    exact apart _ (List.mem_map_of_mem inside) _ (by simp)
  have behind : back.filter p = [] := List.filter_eq_nil_iff.2 fun other inside => by
    rw [keyed]
    exact fun same => fresh (same ▸ List.mem_map_of_mem inside)
  have self : p row = true := (keyed row).2 rfl
  rw [List.filter_append, List.filter_cons, before, behind, self]
  rfl

/-- A lookup by the key of a row selects this row. -/
theorem selected_by_key (hosts : engine.Hosts query) (dialect : Dialect) {row : Record Value}
    (member : row ∈ contents.rows) {json : Json} (bound : Value.ofJson json ≠ .null)
    (keyed : engine.keyOf? row = some (engine.identity (Value.ofJson json))) :
    engine.selected (query.lookup (Query.equalFilter engine.key json)) dialect contents.rows =
      [row] := by
  refine filter_key contents.distinct member fun other => ?_
  rw [reaches_key hosts dialect bound, keyed]

end

end Engine
end Polyquery
