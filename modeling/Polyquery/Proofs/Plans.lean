import Polyquery.Compile.Compiled

/-! What queries are planned to, in one place. A read is the page of its base
table as a derived table, and around it one select with the joins; every clause
of both is given here by the part of the query that it comes from. Creates and updates
write the cells of the body; updates and deletes have the condition of the base
table. -/
namespace Polyquery
open Sql

namespace Sql

@[simp] theorem Condition.none_and (condition : Condition) :
    Condition.none.and condition = condition := rfl

@[simp] theorem Select.mapClauses_mapClauses (f g : Clauses → Clauses) (select : Select) :
    (select.mapClauses f).mapClauses g = select.mapClauses (g ∘ f) := by
  cases select <;> rfl

/-- Sort keys are added at the end, in their order. -/
theorem Select.foldl_orderBy (keys : List SortKey) (select : Select) :
    keys.foldl Select.orderBy select =
      select.mapClauses fun clauses => { clauses with order := clauses.order ++ keys } := by
  induction keys generalizing select with
  | nil => cases select <;> simp [Select.mapClauses]
  | cons key rest ih =>
    rw [List.foldl_cons, ih, Select.orderBy, Select.mapClauses_mapClauses]
    simp [Function.comp_def]

/-- Joins are added at the end, in their order. -/
theorem Select.foldl_join (joins : List Join) (select : Select) :
    joins.foldl Select.join select =
      select.mapClauses fun clauses => { clauses with joins := clauses.joins ++ joins } := by
  induction joins generalizing select with
  | nil => cases select <;> simp [Select.mapClauses]
  | cons join rest ih =>
    rw [List.foldl_cons, ih, Select.join, Select.mapClauses_mapClauses]
    simp [Function.comp_def]

end Sql

namespace Query

/-- Where the joins of a query find their tables. -/
def joinScope (query : Query) : JoinScope :=
  ⟨query.tableName, query.endpoint.schema, query.aliases⟩

/-- The joins of a query, one or two for each route. -/
def joins (query : Query) : Except Error (List Join) :=
  ((groupByRoute query.relationships).mapM fun group =>
    query.joinScope.joins group.1 group.2).map List.flatten

/-- The base table of a read, under its alias. -/
def pageTable (query : Query) : TableRef :=
  query.target.withAlias (query.aliases.get? query.tableName)

/-- The clauses of the derived table. -/
def pageClauses (query : Query) (dialect : Dialect) (window : Window) : Clauses where
  projection := .all
  joins := []
  condition := query.condition dialect .base query.aliases
  order := query.order dialect
  limit := some window.limit
  offset := window.offset

/-- The clauses around the derived table. -/
def outerClauses (query : Query) (dialect : Dialect) (cap : Nat) (joins : List Join) : Clauses where
  projection := query.projection dialect
  joins := joins
  condition := query.condition dialect .related query.aliases
  order := if dialect.sortsOutside then query.order dialect else []
  limit := if query.relationships.isEmpty then none else some cap
  offset := none

theorem page_eq (query : Query) (dialect : Dialect) (window : Window) :
    query.page dialect window = .table query.pageTable (query.pageClauses dialect window) := by
  obtain ⟨limit, offset⟩ := window
  cases offset <;>
    simp [page, Select.within, Select.sorted, Select.foldl_orderBy, Select.ofTable, Select.limit,
      Select.offset, Select.filter, Select.mapClauses, Clauses.none, pageClauses, pageTable]

/-- Joining adds the joins of all routes, and a limit if there is any edge. -/
theorem joined_eq (query : Query) (select : Select) (cap : Nat) :
    select.joined query.joinScope query.relationships cap =
      query.joins.map fun joins => select.mapClauses fun clauses =>
        { clauses with
          joins := clauses.joins ++ joins
          limit := if query.relationships.isEmpty then clauses.limit else some cap } := by
  unfold Select.joined joins
  by_cases alone : query.relationships.isEmpty = true
  · have none : query.relationships = [] := List.isEmpty_iff.1 alone
    cases select <;>
      simp [none, groupByRoute, Grouping.empty, Except.map, pure, Except.pure, Select.mapClauses]
  · simp only [alone, Bool.false_eq_true, ↓reduceIte]
    change ((groupByRoute query.relationships).mapM fun group =>
      query.joinScope.joins group.1 group.2).bind _ = _
    cases (groupByRoute query.relationships).mapM fun group =>
        query.joinScope.joins group.1 group.2 with
    | error => rfl
    | ok joins =>
      simp [Except.map, Except.bind, Select.foldl_join, Select.limit, Function.comp_def]

/-- The select that a read is compiled to. -/
theorem select_eq (query : Query) (dialect : Dialect) (cap : Nat) :
    query.select dialect cap = (do
      let window ← Window.ofPaging query.paging cap
      let joins ← query.joins
      .ok (.derived (query.page dialect window) (query.aliasOf query.tableName)
        (query.outerClauses dialect cap joins))) := by
  unfold select
  cases Window.ofPaging query.paging cap with
  | error => rfl
  | ok window =>
    have joined (outer : Select) : outer.joined ⟨query.tableName, query.endpoint.schema, query.aliases⟩
        query.relationships cap = _ := query.joined_eq outer cap
    simp only [bind, Except.bind, joined]
    cases query.joins with
    | error => rfl
    | ok joins =>
      cases dialect <;>
        simp [Except.map, Select.ofSelect, Select.project, Select.sorted, Select.foldl_orderBy,
          Select.mapClauses, Select.filter, Clauses.none, outerClauses, Dialect.sortsOutside]

/-- A result that was mapped comes from a result. -/
theorem ok_of_map_ok {α β : Type} {f : α → β} {source : Except Error α} {result : β}
    (mapped : source.map f = .ok result) : ∃ value, source = .ok value ∧ result = f value := by
  cases source with
  | error failure => cases mapped
  | ok value =>
    cases mapped
    exact ⟨value, rfl, rfl⟩

/-- The results of a list come from its elements, one by one. -/
theorem cons_of_mapM_ok {α β ε : Type} {f : α → Except ε β} {a : α} {rest : List α} {results : List β}
    (mapped : (a :: rest).mapM f = .ok results) :
    ∃ first others, f a = .ok first ∧ rest.mapM f = .ok others ∧ results = first :: others := by
  rw [List.mapM_cons] at mapped
  cases head : f a with
  | error failure =>
    rw [head] at mapped
    cases mapped
  | ok first =>
    rw [head] at mapped
    cases tail : rest.mapM f with
    | error failure =>
      rw [tail] at mapped
      cases mapped
    | ok others =>
      rw [tail] at mapped
      cases mapped
      exact ⟨first, others, rfl, rfl, rfl⟩

/-- Each result is that of an element. -/
theorem element_of_mapM_ok {α β ε : Type} {f : α → Except ε β} {list : List α} {results : List β}
    (mapped : list.mapM f = .ok results) {b : β} (inside : b ∈ results) : ∃ a ∈ list, f a = .ok b := by
  induction list generalizing results with
  | nil =>
    cases mapped
    cases inside
  | cons a rest ih =>
    obtain ⟨first, others, head, tail, rfl⟩ := cons_of_mapM_ok mapped
    rcases List.mem_cons.1 inside with rfl | later
    · exact ⟨a, by simp, head⟩
    · obtain ⟨other, listed, found⟩ := ih tail later
      exact ⟨other, by simp [listed], found⟩

/-- If every element has a result, the list has the list of them. -/
theorem mapM_ok_of_forall {α β ε : Type} {f : α → Except ε β} {g : α → β} {list : List α}
    (each : ∀ a ∈ list, f a = .ok (g a)) : list.mapM f = .ok (list.map g) := by
  induction list with
  | nil => rfl
  | cons a rest ih =>
    obtain ⟨first, others⟩ := List.forall_mem_cons.1 each
    rw [List.mapM_cons, first, ih others]
    rfl

/-- A route is joined by one join to its destination, or by a join to the join
table and from there one to the destination. -/
theorem joins_ok {scope : JoinScope} {route : Route} {edges : List Relationship} {joins : List Join}
    (joined : scope.joins route edges = .ok joins) :
    (route.through = none ∧
      joins = [⟨scope.table route.destination, edges.map scope.directEquality⟩]) ∨
    ∃ through pairs, route.through = some through ∧
      edges.mapM (scope.throughEqualities through) = .ok pairs ∧
      joins = [⟨scope.table through, pairs.map Prod.fst⟩,
        ⟨scope.table route.destination, pairs.map Prod.snd⟩] := by
  unfold JoinScope.joins at joined
  cases through : route.through with
  | none =>
    rw [through] at joined
    cases joined
    exact .inl ⟨rfl, rfl⟩
  | some middle =>
    rw [through] at joined
    simp only at joined
    cases equalities : edges.mapM (scope.throughEqualities middle) with
    | error failure =>
      rw [equalities] at joined
      cases joined
    | ok pairs =>
      rw [equalities] at joined
      cases joined
      exact .inr ⟨middle, pairs, rfl, equalities, rfl⟩

/-- The cells that a create writes, null left out. -/
def createdCells (query : Query) : Except Error (List (String × Value)) :=
  match query.body with
  | some (.row row) => .ok (Row.values row |>.filter fun cell => !cell.2.isNull)
  | some (.rows _) => .error (.unusable .createOfList)
  | none => .ok []

/-- The insert of these cells. -/
def insertOf (query : Query) (dialect : Dialect) (returning : Bool)
    (cells : List (String × Value)) : Insert :=
  { (Insert.into query.target).ofRow cells with
    returning := if returning then some .all else none
    selectsKey := !returning && dialect.generatedKey == .selected }

theorem insert_eq (query : Query) (dialect : Dialect) (returning : Bool) :
    query.insert dialect returning = query.createdCells.bind fun cells =>
      if cells.isEmpty && !dialect.insertsDefaults then .error (.unusable (.createOfNothing dialect))
      else .ok (query.insertOf dialect returning cells) := by
  unfold insert createdCells
  cases query.body with
  | none => rfl
  | some body => cases body <;> rfl

/-- The cells that an update writes, at least one. -/
def assignedCells (query : Query) : Except Error (List (String × Value)) :=
  match query.body with
  | some (.row row) =>
    if (Row.values row).isEmpty then .error (.unusable .updateOfNothing) else .ok (Row.values row)
  | some (.rows _) => .error (.unusable .updateOfList)
  | none => .error (.unusable .updateOfNothing)

/-- The update of these cells. -/
def updateOf (query : Query) (dialect : Dialect) (returning : Bool)
    (cells : List (String × Value)) : Update :=
  ⟨query.target, cells, query.condition dialect .base .empty, if returning then some .all else none⟩

theorem update_eq (query : Query) (dialect : Dialect) (returning : Bool) :
    query.update dialect returning = query.assignedCells.map (query.updateOf dialect returning) := by
  unfold update assignedCells
  cases query.body with
  | none => rfl
  | some body =>
    cases body with
    | rows rows => rfl
    | row row =>
      change (if (Row.values row).isEmpty then _ else _) =
        Except.map _ (if (Row.values row).isEmpty then _ else _)
      split <;> rfl

variable {query : Query} {dialect : Dialect} {cap : Nat} {returning : Bool}

/-- A read that is planned is its page and its joins, both from the query. -/
theorem select_ok {read : Select} (planned : query.select dialect cap = .ok read) :
    ∃ window joins, Window.ofPaging query.paging cap = .ok window ∧ query.joins = .ok joins ∧
      read = .derived (.table query.pageTable (query.pageClauses dialect window))
        (query.aliasOf query.tableName) (query.outerClauses dialect cap joins) := by
  rw [select_eq] at planned
  cases opened : Window.ofPaging query.paging cap with
  | error failure =>
    rw [opened] at planned
    cases planned
  | ok window =>
    cases joined : query.joins with
    | error failure =>
      rw [opened, joined] at planned
      cases planned
    | ok joins =>
      rw [opened, joined] at planned
      cases planned
      exact ⟨window, joins, rfl, rfl, by rw [page_eq]⟩

/-- A read that compiles is the text of its page and of what is around it. -/
theorem read_ok {compiler : Compiler} {compiled : Compiled} (reads : query.operation = .read)
    (compiles : compiler.compile query = .ok compiled) :
    ∃ window joins read, Window.ofPaging query.paging compiler.rowCap = .ok window ∧
      query.joins = .ok joins ∧
      read = .derived (.table query.pageTable (query.pageClauses compiler.dialect window))
        (query.aliasOf query.tableName) (query.outerClauses compiler.dialect compiler.rowCap joins) ∧
      query.plan compiler.dialect compiler.rowCap compiler.returning = .ok (.select read) ∧
      compiled = compiler.write .read (.select read) := by
  obtain ⟨plan, planned, written⟩ := ok_of_map_ok compiles
  have selected := planned
  rw [Query.plan, reads] at selected
  obtain ⟨read, built, rfl⟩ := ok_of_map_ok selected
  obtain ⟨window, joins, opened, joined, shape⟩ := select_ok built
  rw [reads] at written
  exact ⟨window, joins, read, opened, joined, shape, planned, written⟩

theorem insert_ok {write : Insert} (planned : query.insert dialect returning = .ok write) :
    ∃ cells, query.createdCells = .ok cells ∧ write = query.insertOf dialect returning cells := by
  rw [insert_eq] at planned
  cases created : query.createdCells with
  | error failure =>
    rw [created] at planned
    cases planned
  | ok cells =>
    simp only [created, Except.bind] at planned
    split at planned
    · cases planned
    · cases planned
      exact ⟨cells, rfl, rfl⟩

theorem bulkInsert_ok {write : Insert} (planned : query.bulkInsert = .ok write) :
    ∃ rows, query.body = some (.rows rows) ∧ rows ≠ [] ∧
      write = (Insert.into query.target).ofRows (rows.map Row.values) := by
  unfold bulkInsert at planned
  split at planned
  · cases planned
  · next rows several body =>
    cases planned
    exact ⟨rows, body, several, rfl⟩
  · cases planned

theorem update_ok {write : Update} (planned : query.update dialect returning = .ok write) :
    write.condition = query.condition dialect .base .empty := by
  rw [update_eq] at planned
  obtain ⟨cells, _, rfl⟩ := ok_of_map_ok planned
  rfl

/-- The plan of a query: a page with its joins, an insert, or an update or a
delete under the condition of the base table. -/
theorem plan_ok {plan : Statement} (planned : query.plan dialect cap returning = .ok plan) :
    (∃ window joins, query.operation = .read ∧ Window.ofPaging query.paging cap = .ok window ∧
      plan = .select (.derived (.table query.pageTable (query.pageClauses dialect window))
        (query.aliasOf query.tableName) (query.outerClauses dialect cap joins))) ∨
    (∃ write, plan = .insert write) ∨
    (∃ write, plan = .update write ∧ write.condition = query.condition dialect .base .empty) ∨
    (∃ write, plan = .delete write ∧ write.condition = query.condition dialect .base .empty) := by
  unfold Query.plan at planned
  split at planned
  · next operation =>
    obtain ⟨read, selected, rfl⟩ := ok_of_map_ok planned
    obtain ⟨window, joins, opened, _, rfl⟩ := select_ok selected
    exact .inl ⟨window, joins, operation, opened, rfl⟩
  · obtain ⟨write, _, rfl⟩ := ok_of_map_ok planned
    exact .inr (.inl ⟨write, rfl⟩)
  · obtain ⟨write, _, rfl⟩ := ok_of_map_ok planned
    exact .inr (.inl ⟨write, rfl⟩)
  · obtain ⟨write, updated, rfl⟩ := ok_of_map_ok planned
    exact .inr (.inr (.inl ⟨write, rfl, update_ok updated⟩))
  · cases planned
    exact .inr (.inr (.inr ⟨_, rfl, rfl⟩))
  all_goals cases planned

end Query
end Polyquery
