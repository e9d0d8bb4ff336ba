import Polyquery.Proofs.Alignment
import Polyquery.Proofs.WriteFilters

/-! The values of a query are the same in every dialect. A query has slots for the
values of its body and then for those of its filters, in an order that no dialect has
a say in. What is bound in a slot is the value itself. Only the pattern of a text
filter depends on the dialect, and there only in the case of its letters: a dialect
that cannot ignore case by itself is given the text in lower case. -/
namespace Polyquery
open Sql

/-! ## Slots -/

/-- A place for a value in the statement of a query: the value as it is, or the
pattern of a text that a column begins with or has as a part. -/
inductive Slot where
  | value (v : Value)
  | beginning (text : String)
  | part (text : String)

/-- A text as it is compared: as it is on PostgreSQL, and elsewhere in lower case. -/
def Dialect.folded (dialect : Dialect) (text : String) : String :=
  match dialect with
  | .postgres => text
  | .mysql | .mariadb | .sqlServer | .oracle => Text.lower text

/-- What is bound in a slot. -/
def Slot.bound (dialect : Dialect) : Slot → Value
  | .value v => v
  | .beginning text => .string (dialect.folded text ++ "%")
  | .part text => .string ("%" ++ dialect.folded text ++ "%")

/-- The slots of a test that is not about arrays. -/
def Test.slots : Test Value → List Slot
  | .oneOf values => values.map .value
  | .string value => value.text?.toList.map .beginning
  | .fuzzy value => value.text?.toList.map .part
  | .range low high =>
    ((low.filter Value.isBound).toList ++ (high.filter Value.isBound).toList).map .value
  | .equal value | .notEqual value => if value.isNull then [] else [.value value]
  | .empty | .notEmpty | .contains _ | .notContains _ | .containsAny _ => []

namespace Query

/-- The slots of the filters that a pass takes up, in their order. -/
def passSlots (query : Query) (pass : Pass) : List Slot :=
  (query.filterList.filter fun filter => pass.takes filter.key).flatMap fun filter =>
    (filter.test.map Value.ofJson).slots

/-- The slots of the filters. A read takes up those on its own table first. -/
def filterSlots (query : Query) : List Slot :=
  match query.operation with
  | .read => query.passSlots .base ++ query.passSlots .related
  | .update | .delete => query.passSlots .base
  | .create | .bulkCreate | .createTable | .updateTable | .deleteTable => []

/-- The cells of several rows, row by row, each over the columns of all rows. -/
def cells (rows : List Row) : List Value :=
  (rows.map Row.values).flatMap fun row =>
    (Insert.cellsOf (Insert.columnsOf (rows.map Row.values)) row).filterMap id

/-- The values of the body. A create leaves out a null. -/
def bodyValues (query : Query) : List Value :=
  match query.operation, query.body with
  | .create, some (.row row) => (row.values.filter fun cell => !cell.2.isNull).map Prod.snd
  | .update, some (.row row) => row.values.map Prod.snd
  | .bulkCreate, some (.rows rows) => cells rows
  | _, _ => []

/-- The slots of a query: for its body, and then for its filters. -/
def slots (query : Query) : List Slot := query.bodyValues.map .value ++ query.filterSlots

/-- No filter of the query looks into an array. -/
def SparesArrays (query : Query) : Prop :=
  ∀ filter ∈ query.filterList, filter.test.category ∉ [.contains, .notContains, .containsAny]

instance (query : Query) : Decidable query.SparesArrays :=
  List.decidableBAll _ query.filterList

/-- A slot for a pattern belongs to a text filter of the query. -/
inductive Fills (query : Query) : Slot → Prop where
  | value (v : Value) : Fills query (.value v)
  | beginning {filter : Filter Json} {json : Json} {text : String} (member : filter ∈ query.filterList)
    (asks : filter.test = .string json) (reads : (Value.ofJson json).text? = some text) :
    Fills query (.beginning text)
  | part {filter : Filter Json} {json : Json} {text : String} (member : filter ∈ query.filterList)
    (asks : filter.test = .fuzzy json) (reads : (Value.ofJson json).text? = some text) :
    Fills query (.part text)

end Query

/-! ## Filters -/

section
variable {dialect : Dialect} {column : ColumnRef} {query : Query}

theorem folded_eq (dialect : Dialect) (text : String) :
    dialect.folded text = if dialect.ignoresCase then text else Text.lower text := by
  cases dialect <;> rfl

/-- The pattern predicate of a text has one value, and null has no predicate. -/
theorem values_textPredicate (value : Value) (pattern : String → String) :
    (textPredicate dialect column value pattern).toList.flatMap Predicate.values =
      value.text?.toList.map fun text => .string (pattern (dialect.folded text)) := by
  unfold textPredicate
  simp only [folded_eq]
  cases value.text? <;> simp [Predicate.values, Predicate.leaves, Predicate.ownValues]

/-- A test that is not about arrays compares its column with what is bound in its
slots. -/
theorem values_predicate? (test : Test Value)
    (spares : test.category ∉ [.contains, .notContains, .containsAny]) :
    (test.predicate? dialect column).toList.flatMap Predicate.values =
      test.slots.map (Slot.bound dialect) := by
  cases test with
  | oneOf values => simp [Test.predicate?, Predicate.values, Predicate.leaves, Predicate.ownValues,
      Test.slots, Function.comp_def, Slot.bound]
  | string value | fuzzy value =>
    simp [Test.predicate?, values_textPredicate, Test.slots, Function.comp_def, Slot.bound]
  | range low high =>
    simp only [Test.predicate?, Test.slots]
    cases low.filter Value.isBound <;> cases high.filter Value.isBound <;> rfl
  | equal value | notEqual value => cases value <;> rfl
  | empty | notEmpty => rfl
  | contains | notContains | containsAny => simp [Test.category] at spares

theorem condition_values (condition : Condition) :
    condition.values = condition.parts.flatMap Predicate.values := List.flatMap_assoc

/-- The condition of a pass compares with what is bound in the slots of the pass. -/
theorem values_condition (spares : query.SparesArrays) (pass : Pass) :
    (query.condition dialect pass query.aliases).values =
      (query.passSlots pass).map (Slot.bound dialect) := by
  rw [condition_eq, condition_values, List.filterMap_eq_flatMap_toList, List.flatMap_assoc,
    Query.passSlots, List.map_flatMap]
  refine List.flatMap_congr fun filter member => values_predicate? _ ?_
  have kind : (filter.test.map Value.ofJson).category = filter.test.category := by
    cases filter.test <;> rfl
  rw [kind]
  exact spares filter (List.mem_of_mem_filter member)

/-- Aliases of tables make no difference. -/
theorem values_write_condition (spares : query.SparesArrays) :
    (query.condition dialect .base .empty).values =
      (query.passSlots .base).map (Slot.bound dialect) :=
  have unaliased : query.unaliased.SparesArrays := spares
  values_condition unaliased .base

/-! ## Bodies -/

theorem values_ofRow (table : TableRef) (row : List (String × Value)) :
    ((Insert.into table).ofRow row).values = row.map Prod.snd := by
  unfold Insert.values
  cases row <;> simp [Insert.ofRow]

theorem values_ofRows (table : TableRef) (rows : List Row) :
    ((Insert.into table).ofRows (rows.map Row.values)).values = Query.cells rows := by
  unfold Insert.values Query.cells
  split
  · next none =>
    have columns : Insert.columnsOf (rows.map Row.values) = [] := List.isEmpty_iff.1 none
    simp [columns, Insert.cellsOf]
  · simp [Insert.ofRows, List.flatMap_map]

/-! ## Statements -/

variable {cap : Nat} {returning : Bool} {plan : Statement}

theorem bound_slots (query : Query) (dialect : Dialect) : query.slots.map (Slot.bound dialect) =
    query.bodyValues ++ query.filterSlots.map (Slot.bound dialect) := by
  simp [Query.slots, Function.comp_def, Slot.bound]

/-- A create binds the values of its body that are not null. -/
theorem values_create (creates : query.operation = .create) {write : Insert}
    (built : query.insert dialect returning = .ok write) :
    write.values = query.slots.map (Slot.bound dialect) := by
  obtain ⟨cells, given, rfl⟩ := Query.insert_ok built
  have body : query.bodyValues = cells.map Prod.snd := by
    unfold Query.createdCells at given
    unfold Query.bodyValues
    generalize query.body = body at given ⊢
    rcases body with _ | row | rows <;> cases given <;> simp [creates]
  rw [bound_slots, body, Query.filterSlots, creates, List.map_nil, List.append_nil]
  exact values_ofRow query.target cells

theorem values_bulk (bulk : query.operation = .bulkCreate) {write : Insert}
    (built : query.bulkInsert = .ok write) : write.values = query.slots.map (Slot.bound dialect) := by
  obtain ⟨rows, body, _, rfl⟩ := Query.bulkInsert_ok built
  simp [bound_slots, Query.bodyValues, Query.filterSlots, bulk, body, values_ofRows]

/-- An update binds what it writes in front of what its condition compares with. -/
theorem values_update (spares : query.SparesArrays) (updates : query.operation = .update)
    {write : Update} (built : query.update dialect returning = .ok write) :
    write.values = query.slots.map (Slot.bound dialect) := by
  rw [Query.update_eq] at built
  obtain ⟨cells, given, rfl⟩ := Query.ok_of_map_ok built
  have body : query.bodyValues = cells.map Prod.snd := by
    unfold Query.assignedCells at given
    unfold Query.bodyValues
    generalize query.body = body at given ⊢
    rcases body with _ | row | rows
    · cases given
    · simp only at given
      split at given
      · cases given
      · cases given
        rw [updates]
    · cases given
  rw [bound_slots, body, Query.filterSlots, updates, ← values_write_condition spares]
  rfl

/-- The values of a plan are what is bound in the slots of the query. -/
theorem values_plan (spares : query.SparesArrays)
    (planned : query.plan dialect cap returning = .ok plan) :
    plan.values = query.slots.map (Slot.bound dialect) := by
  unfold Query.plan at planned
  split at planned
  · next reads =>
    obtain ⟨read, selected, rfl⟩ := Query.ok_of_map_ok planned
    obtain ⟨window, joins, _, _, rfl⟩ := Query.select_ok selected
    simp [Statement.values, Select.values, Query.pageClauses, Query.outerClauses,
      values_condition spares, bound_slots, Query.bodyValues, Query.filterSlots, reads]
  · next creates =>
    obtain ⟨write, built, rfl⟩ := Query.ok_of_map_ok planned
    exact values_create creates built
  · next bulk =>
    obtain ⟨write, built, rfl⟩ := Query.ok_of_map_ok planned
    exact values_bulk bulk built
  · next updates =>
    obtain ⟨write, built, rfl⟩ := Query.ok_of_map_ok planned
    exact values_update spares updates built
  · next deletes =>
    cases planned
    simp [Statement.values, Delete.values, Query.delete, Delete.filter, Delete.of,
      values_write_condition spares, bound_slots, Query.bodyValues, Query.filterSlots, deletes]
  all_goals cases planned

/-- The values of a compiled query are what is bound in its slots. -/
theorem bindings_eq_bound {compiler : Compiler} {compiled : Compiled} (spares : query.SparesArrays)
    (compiles : compiler.compile query = .ok compiled) :
    compiled.bindings = query.slots.map (Slot.bound compiler.dialect) := by
  obtain ⟨plan, planned, rfl⟩ := Query.ok_of_map_ok compiles
  rw [Compiler.write_bindings, bindings_statement]
  exact values_plan spares planned

/-! ## Origins -/

/-- A slot of a test is for a value, or for the text of a text test. -/
theorem slot_of_test {test : Test Json} {slot : Slot} (inside : slot ∈ (test.map Value.ofJson).slots) :
    (∃ v, slot = .value v) ∨ ∃ json text, (Value.ofJson json).text? = some text ∧
      (test = .string json ∧ slot = .beginning text ∨ test = .fuzzy json ∧ slot = .part text) := by
  cases test <;> simp [Test.map, Test.slots] at inside <;> grind

/-- A slot for a pattern belongs to a text filter. -/
theorem fills_of_mem {slot : Slot} (member : slot ∈ query.slots) : query.Fills slot := by
  have ofPass (pass : Pass) (member : slot ∈ query.passSlots pass) : query.Fills slot := by
    obtain ⟨filter, inside, own⟩ := List.mem_flatMap.1 member
    have listed := List.mem_of_mem_filter inside
    rcases slot_of_test own with ⟨v, rfl⟩ | ⟨json, text, reads, ⟨asks, rfl⟩ | ⟨asks, rfl⟩⟩
    · exact .value v
    · exact .beginning listed asks reads
    · exact .part listed asks reads
  rcases List.mem_append.1 member with body | filters
  · obtain ⟨v, _, rfl⟩ := List.mem_map.1 body
    exact .value v
  · unfold Query.filterSlots at filters
    split at filters
    · rcases List.mem_append.1 filters with own | related
      · exact ofPass .base own
      · exact ofPass .related related
    · exact ofPass .base filters
    · exact ofPass .base filters
    all_goals cases filters

end

/-- A query without filters on arrays binds the same values in every dialect, in the
same order: a value in each of its slots, which is the same everywhere unless the
slot belongs to a text filter. There it is the pattern of the text, with the text as
it is on PostgreSQL and in lower case on the other dialects. -/
theorem same_values_in_every_dialect {query : Query} {a b : Compiler} {first second : Compiled}
    (spares : query.SparesArrays) (compiles : a.compile query = .ok first)
    (compilesToo : b.compile query = .ok second) :
    first.bindings.length = second.bindings.length ∧
      first.bindings = query.slots.map (Slot.bound a.dialect) ∧
      second.bindings = query.slots.map (Slot.bound b.dialect) ∧
      ∀ slot ∈ query.slots, query.Fills slot := by
  have one := bindings_eq_bound spares compiles
  have other := bindings_eq_bound spares compilesToo
  exact ⟨by rw [one, other, List.length_map, List.length_map], one, other, fun _ => fills_of_mem⟩

/-- A query whose first filter is the last one in the text, with texts in mixed case
and a text filter that asks for nothing. -/
def mixedTexts : Query :=
  { Query.plain "orders" .read with
    filters := some ⟨true, [⟨"customers.city", .fuzzy (.string "ÎLE")⟩,
      ⟨"state", .string (.string "New")⟩,
      ⟨"note", .string (.string "9999-00-00T00:00:00.000Z")⟩,
      ⟨"name", .equal (.string "Graz")⟩,
      ⟨"size", .range (some (.bool true)) (some .null)⟩]⟩ }

theorem mixed_texts_in_two_dialects :
    mixedTexts.SparesArrays ∧
      ∃ first second, (Compiler.of .postgres 10).compile mixedTexts = .ok first ∧
        (Compiler.of .oracle 20).compile mixedTexts = .ok second ∧
        first.bindings = [.string "New%", .string "Graz", .bool true, .string "%ÎLE%"] ∧
        second.bindings = [.string "new%", .string "Graz", .bool true, .string "%île%"] := by
  have spares : mixedTexts.SparesArrays := by decide +kernel
  have compiles : (Compiler.of .postgres 10).compile mixedTexts = .ok _ := rfl
  have compilesToo : (Compiler.of .oracle 20).compile mixedTexts = .ok _ := rfl
  obtain ⟨_, one, other, _⟩ := same_values_in_every_dialect spares compiles compilesToo
  exact ⟨spares, _, _, compiles, compilesToo, one.trans (by decide +kernel),
    other.trans (by decide +kernel)⟩

end Polyquery
