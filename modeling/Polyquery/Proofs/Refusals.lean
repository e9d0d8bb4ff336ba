import Polyquery.Proofs.Qualifiers
import Polyquery.Proofs.Running

/-! Which queries compile. An operation on whole tables has no statement. Any other
query has one, unless there is a reason against it: a page beyond the rows that can
be counted, an edge through a join table without its primary columns, or a body that
is not what the operation writes. The reasons lie in the query alone, but for one:
Oracle inserts no row without a value. -/
namespace Polyquery
open Sql

/-- A reason against a query, with the error that names it. A query may have several
reasons against it, of which the error names one. -/
inductive Query.Unfit (query : Query) (dialect : Dialect) : Unusable → Prop where
  /-- A page of which the first row has no number of 64 bits. -/
  | page {page limit : Nat} (reads : query.operation = .read)
    (asked : query.paging = some ⟨some page, some limit⟩) (sized : 0 < limit)
    (beyond : 0xFFFFFFFFFFFFFFFF < (page - 1) * limit) : Unfit query dialect (.pageOutOfRange page limit)
  /-- An edge through a join table that lacks one of its primary columns. -/
  | edge {edge : Relationship} {through : String} (reads : query.operation = .read)
    (member : edge ∈ query.relationships) (via : edge.through = some through)
    (lacks : edge.fromPrimary = none ∨ edge.toPrimary = none) :
    Unfit query dialect (.throughWithoutPrimaries edge.toTable through)
  | createOfList {rows : List Row} (creates : query.operation = .create)
    (listed : query.body = some (.rows rows)) : Unfit query dialect .createOfList
  /-- A create without a value, where every insert needs one. -/
  | createOfNothing (creates : query.operation = .create)
    (single : ∀ rows, query.body ≠ some (.rows rows))
    (silent : ∀ row, query.body = some (.row row) → ∀ cell ∈ row.entries, Value.ofJson cell.2 = .null)
    (needs : dialect = .oracle) : Unfit query dialect (.createOfNothing dialect)
  | bulkOfNothing (bulk : query.operation = .bulkCreate) (listed : query.body = some (.rows [])) :
    Unfit query dialect .bulkOfNothing
  | bulkWithoutList (bulk : query.operation = .bulkCreate)
    (unlisted : ∀ rows, query.body ≠ some (.rows rows)) : Unfit query dialect .bulkWithoutList
  | updateOfList {rows : List Row} (updates : query.operation = .update)
    (listed : query.body = some (.rows rows)) : Unfit query dialect .updateOfList
  | updateOfNothing (updates : query.operation = .update)
    (single : ∀ rows, query.body ≠ some (.rows rows))
    (silent : ∀ row, query.body = some (.row row) → row.entries = []) :
    Unfit query dialect .updateOfNothing

/-- The error of what failed. -/
def refusal? {α : Type} : Except Error α → Option Error
  | .error error => some error
  | .ok _ => none

theorem refusal?_eq_some {α : Type} {source : Except Error α} {error : Error} :
    refusal? source = some error ↔ source = .error error := by
  cases source <;> simp [refusal?]

@[simp] theorem refusal?_map {α β : Type} (f : α → β) (source : Except Error α) :
    refusal? (source.map f) = refusal? source := by
  cases source <;> rfl

section
variable {α β ε : Type} {f : α → Except ε β} {list : List α}

/-- The error of a list is that of one of its elements. -/
theorem element_of_mapM_error {error : ε} (failed : list.mapM f = .error error) :
    ∃ a ∈ list, f a = .error error := by
  induction list with
  | nil => cases failed
  | cons a rest ih =>
    rw [List.mapM_cons] at failed
    cases head : f a with
    | error first =>
      rw [head] at failed
      cases failed
      exact ⟨a, List.mem_cons_self, head⟩
    | ok value =>
      rw [head] at failed
      cases tail : rest.mapM f with
      | error later =>
        rw [tail] at failed
        cases failed
        obtain ⟨b, member, same⟩ := ih tail
        exact ⟨b, List.mem_cons_of_mem a member, same⟩
      | ok values =>
        rw [tail] at failed
        cases failed

/-- A list has a result only if each element has one. -/
theorem ok_of_mapM_ok {results : List β} (mapped : list.mapM f = .ok results) :
    ∀ a ∈ list, ∃ b, f a = .ok b := by
  induction list generalizing results with
  | nil => simp
  | cons a rest ih =>
    obtain ⟨first, others, head, tail, _⟩ := Query.cons_of_mapM_ok mapped
    exact List.forall_mem_cons.2 ⟨⟨first, head⟩, ih tail⟩

end

/-! ## Pages -/

/-- A window fails exactly for a page that begins beyond 64 bits, whatever the row
cap. -/
theorem ofPaging_eq_error {paging : Option Paging} {cap : Nat} {error : Error} :
    Window.ofPaging paging cap = .error error ↔
      ∃ page limit, paging = some ⟨some page, some limit⟩ ∧ 0 < limit ∧
        0xFFFFFFFFFFFFFFFF < (page - 1) * limit ∧ error = .unusable (.pageOutOfRange page limit) := by
  have counted (offset : Nat) : rowNumbers ≤ offset ↔ 0xFFFFFFFFFFFFFFFF < offset := by
    simp only [rowNumbers]
    omega
  rcases paging with _ | ⟨page, limit⟩
  · simp [Window.ofPaging]
  · cases limit with
    | none => simp [Window.ofPaging, Paging.size?]
    | some limit =>
      by_cases sized : 0 < limit
      · cases page with
        | none => simp [Window.ofPaging, Paging.size?, Option.filter, sized]
        | some page =>
          simp only [Window.ofPaging, Paging.size?, Option.bind_some, Option.filter, sized,
            decide_true, ↓reduceIte, counted]
          by_cases beyond : 0xFFFFFFFFFFFFFFFF < (page - 1) * limit
          · rw [if_pos beyond]
            constructor
            · rintro ⟨⟩
              exact ⟨page, limit, rfl, sized, beyond, rfl⟩
            · rintro ⟨_, _, ⟨⟩, _, _, rfl⟩
              rfl
          · rw [if_neg beyond]
            constructor
            · rintro ⟨⟩
            · rintro ⟨_, _, ⟨⟩, _, above, _⟩
              exact absurd above beyond
      · simp [Window.ofPaging, Paging.size?, Option.filter, sized]

/-! ## Joins -/

/-- One more edge is in the groups once more, wherever it went. -/
theorem edges_addEdge (edge : Relationship) (groups : List (Route × List Relationship)) :
    ((addEdge edge groups).flatMap Prod.snd).Perm (edge :: groups.flatMap Prod.snd) := by
  induction groups with
  | nil => simp [addEdge]
  | cons first rest ih =>
    obtain ⟨route, edges⟩ := first
    rw [addEdge]
    split
    · simp only [List.flatMap_cons, List.append_assoc, List.singleton_append]
      exact List.perm_middle
    · simp only [List.flatMap_cons]
      exact (ih.append_left edges).trans List.perm_middle

/-- Grouping neither loses an edge nor repeats one. -/
theorem edges_groupByRoute (edges : List Relationship) :
    ((groupByRoute edges).flatMap Prod.snd).Perm edges := by
  induction edges using List.reverseRecOn with
  | nil => exact .refl _
  | append_singleton edges edge ih =>
    rw [groupByRoute_concat]
    exact ((edges_addEdge edge _).trans (ih.cons edge)).trans (List.perm_append_singleton edge edges).symm

theorem mem_groupByRoute {edges : List Relationship} {edge : Relationship} :
    (∃ group ∈ groupByRoute edges, edge ∈ group.2) ↔ edge ∈ edges := by
  rw [← List.mem_flatMap, (edges_groupByRoute edges).mem_iff]

theorem throughEqualities_eq_error {scope : JoinScope} {through : String} {edge : Relationship}
    {error : Error} :
    scope.throughEqualities through edge = .error error ↔
      (edge.fromPrimary = none ∨ edge.toPrimary = none) ∧
        error = .unusable (.throughWithoutPrimaries edge.toTable through) := by
  unfold JoinScope.throughEqualities
  cases edge.fromPrimary <;> cases edge.toPrimary <;> simp [eq_comm]

section
variable {query : Query}

/-- The joins of a query fail with the error of an edge without its primary columns. -/
theorem edge_of_joins_error {error : Error} (failed : query.joins = .error error) :
    ∃ edge ∈ query.relationships, ∃ through, edge.through = some through ∧
      (edge.fromPrimary = none ∨ edge.toPrimary = none) ∧
        error = .unusable (.throughWithoutPrimaries edge.toTable through) := by
  rw [← refusal?_eq_some, Query.joins, refusal?_map, refusal?_eq_some] at failed
  obtain ⟨⟨route, edges⟩, grouped, failedGroup⟩ := element_of_mapM_error failed
  unfold JoinScope.joins at failedGroup
  cases through : route.through with
  | none => simp [through] at failedGroup
  | some middle =>
    simp only [through] at failedGroup
    cases equalities : edges.mapM (query.joinScope.throughEqualities middle) with
    | ok pairs => simp [equalities, bind, Except.bind] at failedGroup
    | error first =>
      rw [equalities] at failedGroup
      cases failedGroup
      obtain ⟨edge, inside, refused⟩ := element_of_mapM_error equalities
      have own : edge.route = route := route_of_group _ _ grouped edge inside
      exact ⟨edge, mem_groupByRoute.1 ⟨_, grouped, inside⟩, middle, by rw [← through, ← own]; rfl,
        throughEqualities_eq_error.1 refused⟩

/-- One edge without its primary columns is enough for the joins to fail. -/
theorem joins_fail {edge : Relationship} {through : String} (member : edge ∈ query.relationships)
    (via : edge.through = some through) (lacks : edge.fromPrimary = none ∨ edge.toPrimary = none) :
    ∃ error, query.joins = .error error := by
  cases joined : query.joins with
  | error error => exact ⟨error, rfl⟩
  | ok joins =>
    obtain ⟨parts, mapped, _⟩ := Query.ok_of_map_ok joined
    obtain ⟨⟨route, edges⟩, grouped, inside⟩ := mem_groupByRoute.2 member
    obtain ⟨part, done⟩ := ok_of_mapM_ok mapped _ grouped
    have own : edge.route = route := route_of_group _ _ grouped edge inside
    rcases Query.joins_ok done with ⟨direct, _⟩ | ⟨middle, pairs, _, equalities, _⟩
    · have same : edge.through = route.through := congrArg Route.through own
      rw [via, direct] at same
      cases same
    · obtain ⟨pair, equal⟩ := ok_of_mapM_ok equalities edge inside
      rw [throughEqualities_eq_error.2 ⟨lacks, rfl⟩] at equal
      cases equal

/-- A read fails with its page, and if the page is well with its joins. -/
theorem refusal?_select (query : Query) (dialect : Dialect) (cap : Nat) :
    refusal? (query.select dialect cap) =
      (refusal? (Window.ofPaging query.paging cap)).or (refusal? query.joins) := by
  rw [Query.select_eq]
  cases Window.ofPaging query.paging cap with
  | error error => rfl
  | ok window => cases query.joins <;> rfl

/-! ## Bodies -/

/-- A row has no value left for a create exactly if all its values are null. -/
theorem values_all_null {row : Row} :
    (row.values.filter fun cell => !cell.2.isNull) = [] ↔
      ∀ cell ∈ row.entries, Value.ofJson cell.2 = .null := by
  have null (value : Value) : value.isNull = true ↔ value = .null := by
    cases value <;> simp [Value.isNull]
  rw [Row.values, List.filter_eq_nil_iff, List.forall_mem_map]
  simp only [Bool.not_eq_true, Bool.not_eq_false', null]

theorem insertsDefaults_eq_false {dialect : Dialect} :
    dialect.insertsDefaults = false ↔ dialect = .oracle := by
  cases dialect <;> simp [Dialect.insertsDefaults]

/-- A create is refused for a list, and on Oracle for a body without a value. -/
theorem insert_eq_error {dialect : Dialect} {returning : Bool} {error : Error} :
    query.insert dialect returning = .error error ↔
      (∃ rows, query.body = some (.rows rows) ∧ error = .unusable .createOfList) ∨
        (∀ rows, query.body ≠ some (.rows rows)) ∧
        (∀ row, query.body = some (.row row) → ∀ cell ∈ row.entries, Value.ofJson cell.2 = .null) ∧
        dialect = .oracle ∧ error = .unusable (.createOfNothing dialect) := by
  unfold Query.insert
  rcases query.body with _ | row | rows
  · cases defaults : dialect.insertsDefaults <;>
      simp [bind, Except.bind, defaults, ← insertsDefaults_eq_false, eq_comm]
  · have own : (∀ other, some (Body.row row) = some (.row other) →
        ∀ cell ∈ other.entries, Value.ofJson cell.2 = .null) ↔
          (row.values.filter fun cell => !cell.2.isNull) = [] := by
      rw [values_all_null]
      exact ⟨fun silent => silent row rfl, by rintro silent _ ⟨⟩; exact silent⟩
    rw [own, ← insertsDefaults_eq_false]
    by_cases silent : (row.values.filter fun cell => !cell.2.isNull) = []
    · cases dialect.insertsDefaults <;> simp [bind, Except.bind, silent, eq_comm]
    · simp [bind, Except.bind, silent]
  · simp [bind, Except.bind, eq_comm]

theorem bulkInsert_eq_error {error : Error} :
    query.bulkInsert = .error error ↔
      query.body = some (.rows []) ∧ error = .unusable .bulkOfNothing ∨
        (∀ rows, query.body ≠ some (.rows rows)) ∧ error = .unusable .bulkWithoutList := by
  unfold Query.bulkInsert
  rcases query.body with _ | row | rows
  · simp [eq_comm]
  · simp [eq_comm]
  · cases rows <;> simp [eq_comm]

theorem update_eq_error {dialect : Dialect} {returning : Bool} {error : Error} :
    query.update dialect returning = .error error ↔
      (∃ rows, query.body = some (.rows rows) ∧ error = .unusable .updateOfList) ∨
        (∀ rows, query.body ≠ some (.rows rows)) ∧
        (∀ row, query.body = some (.row row) → row.entries = []) ∧
        error = .unusable .updateOfNothing := by
  unfold Query.update
  rcases query.body with _ | row | rows
  · simp [bind, Except.bind, eq_comm]
  · by_cases silent : row.entries = []
    · simp [bind, Except.bind, Row.values, silent, eq_comm]
    · simp [bind, Except.bind, Row.values, silent]
  · simp [bind, Except.bind, eq_comm]

/-! ## Plans -/

variable {dialect : Dialect} {cap : Nat} {returning : Bool}

/-- There are reasons only against queries that have statements. -/
theorem operates_of_unfit {why : Unusable} (unfit : query.Unfit dialect why) :
    query.isTableOperation = false := by
  unfold Query.isTableOperation
  cases unfit <;> simp_all

/-- What refuses a query is a reason against it. -/
theorem reason_of_refusal {error : Error} (failed : query.plan dialect cap returning = .error error) :
    query.isTableOperation = true ∧ error = .unsupported query.operation ∨
      query.isTableOperation = false ∧ ∃ why, query.Unfit dialect why ∧ error = .unusable why := by
  unfold Query.isTableOperation
  rw [← refusal?_eq_some] at failed
  unfold Query.plan at failed
  cases operation : query.operation with
  | read =>
    simp only [operation, refusal?_map, refusal?_select, Option.or_eq_some_iff,
      refusal?_eq_some] at failed
    refine .inr ⟨rfl, ?_⟩
    rcases failed with paged | ⟨_, joined⟩
    · obtain ⟨page, limit, asked, sized, beyond, same⟩ := ofPaging_eq_error.1 paged
      exact ⟨_, .page operation asked sized beyond, same⟩
    · obtain ⟨edge, member, through, via, lacks, same⟩ := edge_of_joins_error joined
      exact ⟨_, .edge operation member via lacks, same⟩
  | create =>
    simp only [operation, refusal?_map, refusal?_eq_some, insert_eq_error] at failed
    refine .inr ⟨rfl, ?_⟩
    rcases failed with ⟨rows, listed, same⟩ | ⟨single, silent, needs, same⟩
    · exact ⟨_, .createOfList operation listed, same⟩
    · exact ⟨_, .createOfNothing operation single silent needs, same⟩
  | bulkCreate =>
    simp only [operation, refusal?_map, refusal?_eq_some, bulkInsert_eq_error] at failed
    refine .inr ⟨rfl, ?_⟩
    rcases failed with ⟨listed, same⟩ | ⟨unlisted, same⟩
    · exact ⟨_, .bulkOfNothing operation listed, same⟩
    · exact ⟨_, .bulkWithoutList operation unlisted, same⟩
  | update =>
    simp only [operation, refusal?_map, refusal?_eq_some, update_eq_error] at failed
    refine .inr ⟨rfl, ?_⟩
    rcases failed with ⟨rows, listed, same⟩ | ⟨single, silent, same⟩
    · exact ⟨_, .updateOfList operation listed, same⟩
    · exact ⟨_, .updateOfNothing operation single silent, same⟩
  | delete =>
    rw [operation] at failed
    cases failed
  | createTable | updateTable | deleteTable =>
    simp only [operation, refusal?, Option.some.injEq] at failed
    exact .inl ⟨rfl, failed.symm⟩

/-- One reason against a query is enough for it to be refused. -/
theorem refused_of_unfit {why : Unusable} (unfit : query.Unfit dialect why) :
    ∃ error, query.plan dialect cap returning = .error error := by
  simp only [← refusal?_eq_some]
  unfold Query.plan
  cases unfit with
  | page reads asked sized beyond =>
    have failed : Window.ofPaging query.paging cap = _ :=
      ofPaging_eq_error.2 ⟨_, _, asked, sized, beyond, rfl⟩
    simp only [reads, refusal?_map, refusal?_select, refusal?_eq_some.2 failed]
    exact ⟨_, rfl⟩
  | edge reads member via lacks =>
    -- A page that fails as well is refused first.
    obtain ⟨error, failed⟩ := joins_fail member via lacks
    simp only [reads, refusal?_map, refusal?_select, refusal?_eq_some.2 failed]
    cases refusal? (Window.ofPaging query.paging cap) <;> exact ⟨_, rfl⟩
  | createOfList creates listed =>
    simp only [creates, refusal?_map, refusal?_eq_some]
    exact ⟨_, insert_eq_error.2 (.inl ⟨_, listed, rfl⟩)⟩
  | createOfNothing creates single silent needs =>
    simp only [creates, refusal?_map, refusal?_eq_some]
    exact ⟨_, insert_eq_error.2 (.inr ⟨single, silent, needs, rfl⟩)⟩
  | bulkOfNothing bulk listed =>
    simp only [bulk, refusal?_map, refusal?_eq_some]
    exact ⟨_, bulkInsert_eq_error.2 (.inl ⟨listed, rfl⟩)⟩
  | bulkWithoutList bulk unlisted =>
    simp only [bulk, refusal?_map, refusal?_eq_some]
    exact ⟨_, bulkInsert_eq_error.2 (.inr ⟨unlisted, rfl⟩)⟩
  | updateOfList updates listed =>
    simp only [updates, refusal?_map, refusal?_eq_some]
    exact ⟨_, update_eq_error.2 (.inl ⟨_, listed, rfl⟩)⟩
  | updateOfNothing updates single silent =>
    simp only [updates, refusal?_map, refusal?_eq_some]
    exact ⟨_, update_eq_error.2 (.inr ⟨single, silent, rfl⟩)⟩

/-- The row cap and the rows that a write returns refuse nothing, and the dialect
matters for creates only, where Oracle differs from the others. -/
theorem refusal?_plan {first second : Dialect} {otherCap : Nat} {otherReturning : Bool}
    (alike : query.operation = .create → (first = .oracle ↔ second = .oracle)) :
    refusal? (query.plan first cap returning) =
      refusal? (query.plan second otherCap otherReturning) := by
  unfold Query.plan
  cases operation : query.operation with
  | read =>
    have paged : refusal? (Window.ofPaging query.paging cap) =
        refusal? (Window.ofPaging query.paging otherCap) :=
      Option.ext fun error => by simp only [refusal?_eq_some, ofPaging_eq_error]
    simp only [refusal?_map, refusal?_select, paged]
  | create =>
    have oracle := alike operation
    simp only [refusal?_map]
    refine Option.ext fun error => ?_
    rw [refusal?_eq_some, refusal?_eq_some, insert_eq_error, insert_eq_error]
    by_cases needs : first = .oracle
    · rw [needs, oracle.1 needs]
    · simp only [needs, mt oracle.2 needs, false_and, and_false]
  | update =>
    simp only [refusal?_map]
    exact Option.ext fun error => by simp only [refusal?_eq_some, update_eq_error]
  | bulkCreate => rfl
  | delete => rfl
  | createTable | updateTable | deleteTable => rfl

end

/-! ## Compiled queries -/

section
variable {query : Query} {compiler : Compiler}

/-- A query is refused with its plan. -/
theorem refusal?_compile (compiler : Compiler) (query : Query) :
    refusal? (compiler.compile query) =
      refusal? (query.plan compiler.dialect compiler.rowCap compiler.returning) :=
  refusal?_map _ _

theorem reason_of_compile {error : Error} (failed : compiler.compile query = .error error) :
    query.isTableOperation = true ∧ error = .unsupported query.operation ∨
      query.isTableOperation = false ∧
        ∃ why, query.Unfit compiler.dialect why ∧ error = .unusable why := by
  rw [← refusal?_eq_some, refusal?_compile, refusal?_eq_some] at failed
  exact reason_of_refusal failed

/-- A query with a reason against it is refused for a reason, which need not be the
same one. -/
theorem compile_of_unfit {why : Unusable} (unfit : query.Unfit compiler.dialect why) :
    ∃ named, compiler.compile query = .error (.unusable named) := by
  obtain ⟨error, failed⟩ := refused_of_unfit unfit
  rw [← refusal?_eq_some, ← refusal?_compile, refusal?_eq_some] at failed
  rcases reason_of_compile failed with ⟨operates, _⟩ | ⟨_, named, _, rfl⟩
  · rw [operates_of_unfit unfit] at operates
    cases operates
  · exact ⟨named, failed⟩

end

/-- A query is refused exactly if it is an operation on whole tables or if there is a
reason against it; the error names the operation or one of the reasons, and any other
query compiles. The reasons are the same for all row caps, whether writes return rows
or not, and but for creates for all dialects; for creates they are the same for all
dialects other than Oracle. -/
theorem refused_for_a_reason (compiler : Compiler) (query : Query) :
    (compiler.compile query = .error (.unsupported query.operation) ↔
      query.isTableOperation = true) ∧
    ((∃ why, compiler.compile query = .error (.unusable why)) ↔
      ∃ why, query.Unfit compiler.dialect why) ∧
    (∀ error, compiler.compile query = .error error →
      error = .unsupported query.operation ∨
        ∃ why, query.Unfit compiler.dialect why ∧ error = .unusable why) ∧
    ((∃ compiled, compiler.compile query = .ok compiled) ↔
      query.isTableOperation = false ∧ ∀ why, ¬ query.Unfit compiler.dialect why) ∧
    ∀ other : Compiler,
      (query.operation = .create → (other.dialect = .oracle ↔ compiler.dialect = .oracle)) →
      refusal? (other.compile query) = refusal? (compiler.compile query) := by
  refine ⟨⟨fun failed => ?_, compile_tableOperation compiler⟩, ⟨?_, ?_⟩, fun error failed => ?_,
    ⟨?_, ?_⟩, fun other alike => ?_⟩
  · rcases reason_of_compile failed with ⟨operates, _⟩ | ⟨_, why, _, same⟩
    · exact operates
    · cases same
  · rintro ⟨why, failed⟩
    rcases reason_of_compile failed with ⟨_, same⟩ | ⟨_, reason, unfit, _⟩
    · cases same
    · exact ⟨reason, unfit⟩
  · rintro ⟨why, unfit⟩
    exact compile_of_unfit unfit
  · rcases reason_of_compile failed with ⟨_, same⟩ | ⟨_, why, unfit, same⟩
    · exact .inl same
    · exact .inr ⟨why, unfit, same⟩
  · rintro ⟨compiled, compiles⟩
    constructor
    · cases operates : query.isTableOperation with
      | false => rfl
      | true =>
        rw [compile_tableOperation compiler operates] at compiles
        cases compiles
    · intro why unfit
      obtain ⟨named, failed⟩ := compile_of_unfit unfit
      rw [failed] at compiles
      cases compiles
  · rintro ⟨operates, fit⟩
    cases compiles : compiler.compile query with
    | ok compiled => exact ⟨compiled, rfl⟩
    | error error =>
      rcases reason_of_compile compiles with ⟨table, _⟩ | ⟨_, why, unfit, _⟩
      · rw [operates] at table
        cases table
      · exact absurd unfit (fit why)
  · rw [refusal?_compile, refusal?_compile]
    exact refusal?_plan alike

end Polyquery
