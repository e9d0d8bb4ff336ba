import Polyquery.Proofs.Plans
import Polyquery.Proofs.Translation

/-! Where the filters of a read go. A key without a dot is a column of the base
table, and its filter is applied to the page before anything is joined; a key
with a dot is a column of another table, and its filter is applied behind the
joins. Every filter goes to one of the two places, in the order of the query. -/
namespace Polyquery
open Sql Text

/-! ## Keys -/

/-- Whether a key leads to another table than the base table. -/
def Key.isRelated (key : String) : Bool := decide ('.' ∈ (Key.canonical key).toList)

/-- What stands in front of the first dot of a key. -/
def Key.tablePart (key : String) : String :=
  String.ofList ((Key.canonical key).toList.takeWhile (· ≠ '.'))

/-- What stands behind the first dot of a key. -/
def Key.columnPart (key : String) : String :=
  String.ofList (((Key.canonical key).toList.dropWhile (· ≠ '.')).drop 1)

/-- The column that a filter of the query is about. -/
def Query.filterColumn (query : Query) (key : String) : ColumnRef :=
  if Key.isRelated key then ⟨some (query.aliasOf (Key.tablePart key)), Key.columnPart key⟩
  else ⟨some (query.aliasOf query.tableName), Key.canonical key⟩

/-- Cutting at the first separator gives what is in front of it and what is
behind it, if there is one. -/
theorem cutFirst_eq (separator : Char) (text : List Char) :
    cutFirst separator text =
      if separator ∈ text then
        some (text.takeWhile (· ≠ separator), (text.dropWhile (· ≠ separator)).drop 1)
      else none := by
  induction text with
  | nil => rfl
  | cons c rest ih =>
    by_cases same : c = separator
    · simp [cutFirst, same]
    · by_cases inside : separator ∈ rest
      · simp [cutFirst, ih, inside, same]
      · simp [cutFirst, ih, inside, same, Ne.symm same]

theorem cutSelector_canonical (key : String) :
    cutSelector (Key.canonical key) =
      if Key.isRelated key then some (Key.tablePart key, Key.columnPart key) else none := by
  unfold cutSelector Key.isRelated
  rw [cutFirst_eq]
  by_cases dotted : '.' ∈ (Key.canonical key).toList
  · simp [dotted, Key.tablePart, Key.columnPart]
  · simp [dotted]

/-- The pass of a key. -/
def Pass.takes (pass : Pass) (key : String) : Bool :=
  match pass with
  | .base => !Key.isRelated key
  | .related => Key.isRelated key

/-- A key is taken up in the pass of its table, and in no other. -/
theorem resolve_eq (query : Query) (pass : Pass) (key : String) :
    (Scope.mk query.tableName query.aliases pass).resolve key =
      if pass.takes key then some (query.filterColumn key) else none := by
  unfold Scope.resolve Query.filterColumn
  simp only [cutSelector_canonical]
  cases related : Key.isRelated key <;> cases pass <;> simp [Pass.takes, related] <;> rfl

/-! ## Translations -/

/-- A value that a range can end at. -/
def boundsRange (json : Json) : Bool :=
  Value.ofJson json ≠ .null ∧ Value.ofJson json ≠ .string ""

/-- A test that has nothing to compare its column with. -/
def Test.asksNothing : Test Json → Bool
  | .range low high => !low.any boundsRange && !high.any boundsRange
  | .contains values | .notContains values | .containsAny values => values.isEmpty
  | .string value | .fuzzy value => Value.ofJson value = .null
  | .oneOf _ | .equal _ | .notEqual _ | .empty | .notEmpty => false

/-- The predicate of a filter of the query, on its column. -/
def Query.translation? (query : Query) (dialect : Dialect) (filter : Filter Json) : Option Predicate :=
  (filter.test.map Value.ofJson).predicate? dialect (query.filterColumn filter.key)

/-- The predicates of the tests of arrays with elements. -/
theorem translation?_elements (query : Query) (dialect : Dialect) (key : String) {values : List Json}
    (given : values ≠ []) :
    query.translation? dialect ⟨key, .contains values⟩ =
        some (containment dialect (query.filterColumn key) (values.map Value.ofJson) false) ∧
      query.translation? dialect ⟨key, .notContains values⟩ =
        some (.not (containment dialect (query.filterColumn key) (values.map Value.ofJson) false)) ∧
      query.translation? dialect ⟨key, .containsAny values⟩ =
        some (containment dialect (query.filterColumn key) (values.map Value.ofJson) true) := by
  have nonempty : (values.map Value.ofJson).isEmpty = false := by simpa using given
  refine ⟨?_, ?_, ?_⟩ <;>
    simp only [Query.translation?, Test.map, Test.predicate?, nonempty, Bool.false_eq_true, ↓reduceIte]

theorem isBound_ofJson (json : Json) : (Value.ofJson json).isBound = boundsRange json := by
  unfold boundsRange
  cases Value.ofJson json with
  | string s => by_cases vacuous : s = "" <;> simp [Value.isBound, vacuous]
  | _ => simp [Value.isBound]

theorem filter_isBound (bound : Option Json) :
    (bound.map Value.ofJson).filter Value.isBound = none ↔ bound.any boundsRange = false := by
  cases bound with
  | none => simp
  | some json => simp [Option.filter, isBound_ofJson]

theorem textPredicate_eq_none {dialect : Dialect} {column : ColumnRef} {value : Value}
    {pattern : String → String} :
    textPredicate dialect column value pattern = none ↔ value = .null := by
  cases value <;> simp [textPredicate, Value.text?]

/-- A filter has no predicate exactly if its test asks nothing. -/
theorem translation?_eq_none (query : Query) (dialect : Dialect) (filter : Filter Json) :
    query.translation? dialect filter = none ↔ filter.test.asksNothing = true := by
  obtain ⟨key, test⟩ := filter
  unfold Query.translation?
  cases test with
  | string value | fuzzy value =>
    simp [Test.map, Test.predicate?, textPredicate_eq_none, Test.asksNothing]
  | oneOf values | empty | notEmpty => simp [Test.map, Test.predicate?, Test.asksNothing]
  | equal value | notEqual value =>
    cases normalized : Value.ofJson value <;>
      simp [Test.map, Test.predicate?, normalized, Test.asksNothing]
  | contains values | notContains values | containsAny values =>
    simp [Test.map, Test.predicate?, Test.asksNothing]
  | range low high =>
    have lowBound := filter_isBound low
    have highBound := filter_isBound high
    simp only [Test.map, Test.predicate?, Test.asksNothing]
    cases lowFiltered : (low.map Value.ofJson).filter Value.isBound <;>
      cases highFiltered : (high.map Value.ofJson).filter Value.isBound <;>
      simp_all

theorem translation?_column {query : Query} {dialect : Dialect} {filter : Filter Json} {p : Predicate}
    (translated : query.translation? dialect filter = some p) :
    ∀ leaf ∈ p.leaves, leaf.column? = some (query.filterColumn filter.key) :=
  (predicate?_sound translated).column

/-! ## Passes -/

/-- The filters of a query, none if it has none. -/
def Query.filterList (query : Query) : List (Filter Json) := (query.filters.getD .none).list

/-- How the predicates of one pass are joined. -/
def Query.filterConnective (query : Query) : Connective :=
  if (query.filters.getD .none).anyOf then .or else .and

/-- The condition of a pass: the translations of its filters, in their order. -/
theorem condition_eq (query : Query) (dialect : Dialect) (pass : Pass) :
    query.condition dialect pass query.aliases = ⟨query.filterConnective,
      (query.filterList.filter fun filter => pass.takes filter.key).filterMap
        (query.translation? dialect)⟩ := by
  unfold Query.condition Query.filterConnective Query.filterList
  cases query.filters with
  | none => rfl
  | some filters =>
    have each : Filter.predicate? dialect ⟨query.tableName, query.aliases, pass⟩ ∘
        Filter.map Value.ofJson = fun filter =>
          if pass.takes filter.key then query.translation? dialect filter else none := by
      funext filter
      simp only [Function.comp_apply, Filter.predicate?, Filter.map, resolve_eq]
      split <;> rfl
    have parts : (filters.list.map (Filter.map Value.ofJson)).filterMap
        (Filter.predicate? dialect ⟨query.tableName, query.aliases, pass⟩) =
          (filters.list.filter fun filter => pass.takes filter.key).filterMap
            (query.translation? dialect) := by
      rw [List.filterMap_map, List.filterMap_filter, each]
    exact congrArg (Condition.mk _) parts

/-- Of two passes that share a list between them, none has a filter twice. -/
theorem passes_length {α β : Type} (related : α → Bool) (translate : α → Option β) (list : List α) :
    ((list.filter fun a => !related a).filterMap translate).length +
      ((list.filter related).filterMap translate).length = list.countP fun a => (translate a).isSome := by
  induction list with
  | nil => rfl
  | cons a rest ih =>
    cases side : related a <;> cases translated : translate a <;>
      simp [side, translated, ← ih] <;> omega

/-- A read that compiles has every filter in one place. The page has the
translations of the filters without a dot in their key, the select around it
those of the filters with a dot, both in the order of the query and under the
connective of the query. A translation is about the column of the key, and only
a filter that asks nothing has none. -/
theorem read_filters_split {compiler : Compiler} {query : Query} {compiled : Compiled}
    (reads : query.operation = .read) (compiles : compiler.compile query = .ok compiled) :
    ∃ page outer,
      compiled = compiler.write .read (.select (.derived (.table query.pageTable page)
        (query.aliasOf query.tableName) outer)) ∧
      page.condition = ⟨query.filterConnective,
        (query.filterList.filter fun filter => !Key.isRelated filter.key).filterMap
          (query.translation? compiler.dialect)⟩ ∧
      outer.condition = ⟨query.filterConnective,
        (query.filterList.filter fun filter => Key.isRelated filter.key).filterMap
          (query.translation? compiler.dialect)⟩ ∧
      page.condition.parts.length + outer.condition.parts.length =
        (query.filterList.filter fun filter => !filter.test.asksNothing).length ∧
      ∀ filter ∈ query.filterList,
        (query.translation? compiler.dialect filter = none ↔ filter.test.asksNothing = true) ∧
        ∀ p, query.translation? compiler.dialect filter = some p →
          ∀ leaf ∈ p.leaves, leaf.column? = some (query.filterColumn filter.key) := by
  obtain ⟨plan, planned, written⟩ := Query.ok_of_map_ok compiles
  rw [Query.plan, reads] at planned
  obtain ⟨read, selected, rfl⟩ := Query.ok_of_map_ok planned
  obtain ⟨window, joins, _, _, rfl⟩ := Query.select_ok selected
  have counted := passes_length (fun filter => Key.isRelated filter.key)
    (query.translation? compiler.dialect) query.filterList
  have asked (filter : Filter Json) : (query.translation? compiler.dialect filter).isSome =
      !filter.test.asksNothing := by
    have none := translation?_eq_none query compiler.dialect filter
    cases translated : query.translation? compiler.dialect filter <;> simp_all
  refine ⟨query.pageClauses compiler.dialect window,
    query.outerClauses compiler.dialect compiler.rowCap joins, ?_, condition_eq query _ .base,
    condition_eq query _ .related, ?_, fun filter _ => ⟨?_, ?_⟩⟩
  · rw [written, reads]
  · simp only [Query.pageClauses, Query.outerClauses, condition_eq, Pass.takes]
    simpa only [asked, List.countP_eq_length_filter] using counted
  · exact translation?_eq_none query compiler.dialect filter
  · exact fun p translated => translation?_column translated

/-- Filters of both kinds, with markers, with several dots and with a range whose
bounds are both open. -/
def mixedFilters : Query :=
  { Query.plain "orders" .read with
    aliases := .ofList [("orders", "o"), ("customers", "c")]
    filters := some ⟨true, [⟨"1:customers.city", .equal (.string "Graz")⟩,
      ⟨"state", .oneOf [.string "new"]⟩,
      ⟨"day", .range (some (.string "0000-00-00T00:00:00.000Z")) (some (.string ""))⟩,
      ⟨"lines.item.name:2", .notEmpty⟩]⟩ }

theorem mixed_filters_split :
    mixedFilters.operation = .read ∧
      ∃ compiled, (Compiler.of .postgres 10).compile mixedFilters = .ok compiled ∧
        ∃ page outer,
          compiled = (Compiler.of .postgres 10).write .read (.select (.derived
            (.table mixedFilters.pageTable page) "o" outer)) ∧
          page.condition = ⟨.or, [.oneOf ⟨some "o", "state"⟩ [.string "new"]]⟩ ∧
          outer.condition = ⟨.or, [.compare ⟨some "c", "city"⟩ .equal (.string "Graz"),
            .isNull ⟨some "lines", "item.name"⟩ true]⟩ := by
  have compiles : (Compiler.of .postgres 10).compile mixedFilters = .ok _ := rfl
  obtain ⟨page, outer, written, pageCondition, outerCondition, _⟩ := read_filters_split rfl compiles
  exact ⟨rfl, _, compiles, page, outer, written, pageCondition, outerCondition⟩

end Polyquery
