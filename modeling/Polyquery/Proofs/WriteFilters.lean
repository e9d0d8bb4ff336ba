import Polyquery.Proofs.Conjunction
import Polyquery.Proofs.FilterPasses

/-! What holds back a write. An update or a delete is about one table and joins
no other, so it takes up the filters on that table: those without a dot in their
key. Each of them that has something to compare with stands in the condition of
the write, and the write has a `WHERE` as soon as there is one. A key with a dot
leads to a joined table, also if it begins with the name of the written table,
and a write has no place for its filter. -/
namespace Polyquery
open Sql

/-- What a statement asks of the rows that it reads, changes or deletes. An insert
asks nothing. -/
def Sql.Statement.condition : Statement → Condition
  | .select read => read.clauses.condition
  | .insert _ => .none
  | .update write => write.condition
  | .delete write => write.condition

/-- The query as a write sees it, every table under its real name. -/
def Query.unaliased (query : Query) : Query := { query with aliases := .empty }

/-- A filter that a write has to meet: it is on the written table, and it has
something to compare with. -/
def Filter.restrains (filter : Filter Json) : Bool :=
  !Key.isRelated filter.key && !filter.test.asksNothing

section
variable {query : Query} {dialect : Dialect} {cap : Nat} {returning : Bool} {plan : Statement}

/-- The condition of a write is that of the filters on its table, and it stands
behind `WHERE`. -/
theorem write_ok (writes : query.operation = .update ∨ query.operation = .delete)
    (planned : query.plan dialect cap returning = .ok plan) :
    plan.condition = query.condition dialect .base .empty ∧
      ∃ before behind, plan.sql dialect = before ++ (plan.condition.clause dialect ++ behind) := by
  unfold Query.plan at planned
  rcases writes with updates | deletes
  · rw [updates] at planned
    obtain ⟨write, built, rfl⟩ := Query.ok_of_map_ok planned
    obtain ⟨before, behind, around⟩ := update_around_condition dialect write
    exact ⟨Query.update_ok built, before, behind, around write.condition⟩
  · rw [deletes] at planned
    cases planned
    obtain ⟨before, behind, around⟩ := delete_around_condition dialect (query.delete dialect returning)
    exact ⟨rfl, before, behind, around _⟩

/-- The condition of a write: the translations of the filters on its table, in
the order of the query. -/
theorem write_condition_eq (query : Query) (dialect : Dialect) :
    query.condition dialect .base .empty = ⟨query.filterConnective,
      (query.filterList.filter fun filter => !Key.isRelated filter.key).filterMap
        (query.unaliased.translation? dialect)⟩ :=
  condition_eq query.unaliased dialect .base

theorem unaliased_filterColumn {key : String} (own : Key.isRelated key = false) :
    query.unaliased.filterColumn key = ⟨some query.tableName, Key.canonical key⟩ := by
  rw [Query.filterColumn, own]
  rfl

/-- A filter that restrains writes has a predicate in the condition, on its own
column. -/
theorem restraint_in_condition (dialect : Dialect) {filter : Filter Json}
    (member : filter ∈ query.filterList) (restrains : filter.restrains = true) :
    ∃ p ∈ (query.condition dialect .base .empty).parts,
      query.unaliased.translation? dialect filter = some p ∧
      ∀ leaf ∈ p.leaves, leaf.column? = some ⟨some query.tableName, Key.canonical filter.key⟩ := by
  rw [Filter.restrains, Bool.and_eq_true, Bool.not_eq_true', Bool.not_eq_true'] at restrains
  obtain ⟨own, asks⟩ := restrains
  cases translated : query.unaliased.translation? dialect filter with
  | none =>
    rw [(translation?_eq_none _ _ _).1 translated] at asks
    cases asks
  | some p =>
    refine ⟨p, ?_, rfl, ?_⟩
    · rw [write_condition_eq]
      exact List.mem_filterMap.2 ⟨filter, List.mem_filter.2 ⟨member, by simp [own]⟩, translated⟩
    · rw [← unaliased_filterColumn own]
      exact translation?_column translated

/-- A write asks for something exactly if one of its filters restrains it. -/
theorem write_asks_iff :
    (query.condition dialect .base .empty).isEmpty = false ↔
      ∃ filter ∈ query.filterList, filter.restrains = true := by
  constructor
  · intro asks
    obtain ⟨p, part⟩ := List.exists_mem_of_ne_nil _ (parts_of_not_isEmpty asks)
    rw [write_condition_eq] at part
    obtain ⟨filter, inside, translated⟩ := List.mem_filterMap.1 part
    obtain ⟨member, own⟩ := List.mem_filter.1 inside
    have asked := translation?_eq_none query.unaliased dialect filter
    rw [translated] at asked
    exact ⟨filter, member, by simpa [Filter.restrains, own] using asked⟩
  · rintro ⟨filter, member, restrains⟩
    obtain ⟨p, part, _⟩ := restraint_in_condition dialect member restrains
    exact Bool.eq_false_iff.2 fun vacuous => by
      rw [parts_of_isEmpty vacuous] at part
      cases part

/-- A condition that asks for something is written behind `WHERE`. -/
theorem where_in_text (compiler : Compiler) (operation : Operation) {before behind : Sql}
    (shape : plan.sql compiler.dialect =
      before ++ (plan.condition.clause compiler.dialect ++ behind))
    (asks : plan.condition.isEmpty = false) :
    ∃ front index rest, (compiler.write operation plan).text.toList = front ++ (" WHERE ".toList ++
      (writeFrom compiler.dialect index (plan.condition.sql compiler.dialect) ++ rest)) := by
  have clause : plan.condition.clause compiler.dialect =
      [.space, .word .where, .space] ++ plan.condition.sql compiler.dialect := by
    rw [Condition.clause, asks]
    rfl
  let index := 1 + (bindings before).length
  let reached := index + (bindings (plan.condition.sql compiler.dialect)).length
  refine ⟨writeFrom compiler.dialect 1 before, index, writeFrom compiler.dialect reached behind, ?_⟩
  simp only [Compiler.write_text, shape, clause, writeFrom_append,
    List.append_assoc]
  rfl

end

/-- A write that compiles meets every filter that restrains it. Its condition has
the translations of the filters on its table, in the order of the query and under
its connective, each on the column of its key under the real name of the table;
and as soon as there is one filter that restrains the write, the condition stands
in the text behind `WHERE`. -/
theorem write_meets_its_filters {compiler : Compiler} {query : Query} {compiled : Compiled}
    (writes : query.operation = .update ∨ query.operation = .delete)
    (compiles : compiler.compile query = .ok compiled) :
    ∃ plan, query.plan compiler.dialect compiler.rowCap compiler.returning = .ok plan ∧
      compiled = compiler.write query.operation plan ∧
      plan.condition = ⟨query.filterConnective,
        (query.filterList.filter fun filter => !Key.isRelated filter.key).filterMap
          (query.unaliased.translation? compiler.dialect)⟩ ∧
      (∀ filter ∈ query.filterList, filter.restrains = true → ∃ p ∈ plan.condition.parts,
        query.unaliased.translation? compiler.dialect filter = some p ∧
        ∀ leaf ∈ p.leaves, leaf.column? = some ⟨some query.tableName, Key.canonical filter.key⟩) ∧
      ((∃ filter ∈ query.filterList, filter.restrains = true) →
        plan.condition.isEmpty = false ∧
        ∃ front index rest, compiled.text.toList = front ++ (" WHERE ".toList ++
          (writeFrom compiler.dialect index (plan.condition.sql compiler.dialect) ++ rest))) := by
  obtain ⟨plan, planned, written⟩ := Query.ok_of_map_ok compiles
  obtain ⟨condition, before, behind, shape⟩ := write_ok writes planned
  refine ⟨plan, planned, written, by rw [condition, write_condition_eq], ?_, fun restrained => ?_⟩
  · intro filter member restrains
    rw [condition]
    exact restraint_in_condition _ member restrains
  · have asks : plan.condition.isEmpty = false := by
      rw [condition]
      exact write_asks_iff.2 restrained
    rw [written]
    exact ⟨asks, where_in_text compiler query.operation shape asks⟩

/-- An update under filters of all kinds: with a marker, with nothing to compare
with, on a joined table, and one more on the updated table. -/
def closeOldOrders : Query :=
  { Query.plain "orders" .update with
    aliases := .ofList [("orders", "o")]
    body := some (.row (.ofList [("state", .string "closed")]))
    filters := some ⟨true, [⟨"2:state", .equal (.string "open")⟩,
      ⟨"note", .fuzzy (.string "0000-00-00T00:00:00.000Z")⟩,
      ⟨"customers.city", .equal (.string "Graz")⟩,
      ⟨"paid", .notEmpty⟩]⟩ }

theorem close_old_orders_meets_its_filters :
    closeOldOrders.operation = .update ∧
      ∃ compiled, (Compiler.of .oracle 10).compile closeOldOrders = .ok compiled ∧
        compiled.text = "UPDATE \"orders\" SET \"state\" = :1" ++
          " WHERE \"orders\".\"state\" = :2 OR \"orders\".\"paid\" IS NOT NULL" ∧
        ∃ plan, compiled = (Compiler.of .oracle 10).write .update plan ∧
          plan.condition = ⟨.or, [.compare ⟨some "orders", "state"⟩ .equal (.string "open"),
            .isNull ⟨some "orders", "paid"⟩ true]⟩ := by
  have compiles : (Compiler.of .oracle 10).compile closeOldOrders = .ok _ := rfl
  obtain ⟨plan, _, written, condition, _⟩ := write_meets_its_filters (.inl rfl) compiles
  exact ⟨rfl, _, compiles, by rfl, plan, written, condition⟩

/-- The delete of one row, which its filter names by the table and the column. -/
def deleteByFullName : Query :=
  { Query.plain "persons" .delete with
    filters := some ⟨false, [⟨"persons.id", .equal (.string "7")⟩]⟩ }

/-- Not every filter with something to compare with ends up in its write: a delete
whose only filter is on `persons.id` is a delete of the whole table `persons`. -/
theorem full_name_filter_leaves_no_where :
    (∃ compiled, (Compiler.of .postgres 10).compile deleteByFullName = .ok compiled ∧
      compiled.text = "DELETE FROM \"persons\" RETURNING *" ∧ compiled.bindings = []) ∧
    ¬ ∀ (compiler : Compiler) (query : Query) (compiled : Compiled),
      query.operation = .update ∨ query.operation = .delete →
      compiler.compile query = .ok compiled →
      ∃ plan, query.plan compiler.dialect compiler.rowCap compiler.returning = .ok plan ∧
        ∀ filter ∈ query.filterList, filter.test.asksNothing = false →
          ∃ p ∈ plan.condition.parts, query.unaliased.translation? compiler.dialect filter = some p := by
  refine ⟨⟨_, rfl, by rfl, rfl⟩, fun claimed => ?_⟩
  obtain ⟨plan, planned, meets⟩ := claimed (.of .postgres 10) deleteByFullName _ (.inr rfl) rfl
  cases planned
  obtain ⟨p, part, _⟩ := meets _ (List.mem_singleton.2 rfl) (by rfl)
  cases part

end Polyquery
