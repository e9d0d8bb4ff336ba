import Polyquery.Proofs.Alignment
import Polyquery.Proofs.CompactTexts
import Polyquery.Proofs.FilterPasses
import Polyquery.Proofs.TextFilters

/-! The document of a containment test. Where a dialect has operators or functions for
arrays, the elements of a test are bound as the text of one array. That text is read as an
array again, with an item for each element, in the same order. An element is not always
what it was in the test: it is bound like every other value first, so that an array or an
object is its text, a placeholder of an open bound is null, a timestamp has no blanks
around it, and an integer beyond the signed 64 bits is the nearest fractional number. -/
namespace Polyquery
open Sql Decimal Text Calendar

/-! ## Elements -/

/-- Every integer of JSON has a nearest binary64 number. -/
theorem Json.InRange.isFinite {n : Int} (inRange : InRange n) : (Double.ofInt n).isFinite = true := by
  obtain ⟨least, most⟩ := inRange
  exact Double.isFinite_ofInt (by omega)

/-- What a document holds for an element. -/
def Json.settled : Json → Json
  | .number (.int n inRange) =>
    .number (if n < 0x8000000000000000 then .int n inRange
      else .float (.ofInt n) inRange.isFinite)
  | .string s => ((soughtText? s).map Json.string).getD .null
  | .array items => .string (Json.array items).compact
  | .object members => .string (Json.object members).compact
  | json => json

namespace Json

theorem settled_isFlat (json : Json) : json.settled.isFlat = true := by
  cases json with
  | number n => cases n <;> rfl
  | string s =>
    rw [settled]
    cases soughtText? s <;> rfl
  | null | bool | array | object => rfl

/-- An element goes into the document by way of its bound value. -/
theorem toJson_ofJson (json : Json) : (Value.ofJson json).toJson = json.settled := by
  cases json with
  | number n =>
    cases n with
    | int n inRange =>
      obtain ⟨least, most⟩ := id inRange
      by_cases small : n < 0x8000000000000000
      · have bounds : -0x8000000000000000 ≤ n ∧ n < 0x8000000000000000 := ⟨least, small⟩
        have back : (Int64.ofInt n).toInt = n :=
          Int64.toInt_ofInt_of_le (by simpa using least) (by simpa using small)
        simp only [Value.ofJson, Value.ofNumber, if_pos bounds, Value.toJson, Number.ofInt64, settled,
          if_pos small, back]
      · have bounds : ¬(-0x8000000000000000 ≤ n ∧ n < 0x8000000000000000) := fun both => small both.2
        simp only [Value.ofJson, Value.ofNumber, if_neg bounds, Value.toJson, settled, if_neg small,
          ofDouble, dif_pos inRange.isFinite]
    | float x finite => exact dif_pos finite
  | string s =>
    rw [Value.ofJson, settled, ← text?_ofText]
    unfold Value.ofText
    split
    · rfl
    · split <;> rfl
  | null | bool | array | object => rfl

end Json

/-! ## Documents -/

theorem arrayDocument_ofJson (values : List Json) :
    arrayDocument (values.map Value.ofJson) = .string (Json.array (values.map Json.settled)).compact := by
  rw [arrayDocument, List.map_map]
  congr 3
  exact List.map_congr_left fun v _ => v.toJson_ofJson

/-- A containment test with a document binds the document alone. -/
theorem bindings_containment {dialect : Dialect} (column : ColumnRef) (values : List Value) {any : Bool}
    (documents : dialect.containment = .functions ∨ dialect.containment = .operators ∧ any = false) :
    bindings ((containment dialect column values any).sql dialect) = [arrayDocument values] := by
  rcases documents with functions | ⟨operators, rfl⟩
  · simp [containment, functions, Predicate.sql]
  · simp [containment, operators, Predicate.sql, bindings_append]

/-- A containment test binds one document, a text that is read as the array of its elements:
as many items as there are elements, in their order, each of them read as the text of its
element is. That text says which value the element has become. -/
theorem document_lists_elements (query : Query) {dialect : Dialect}
    (documents : dialect.containment ≠ .patterns) (key : String) {values : List Json}
    (given : values ≠ []) :
    ∃ document every, query.translation? dialect ⟨key, .contains values⟩ = some every ∧
      query.translation? dialect ⟨key, .notContains values⟩ = some (.not every) ∧
      bindings (every.sql dialect) = [.string document] ∧
      (dialect.containment = .functions →
        ∃ any, query.translation? dialect ⟨key, .containsAny values⟩ = some any ∧
          bindings (any.sql dialect) = [.string document]) ∧
      (∃ items, Json.Document.read? document = some (.array items) ∧
        items.map Json.Document.toJson? = values.map fun v => Json.parse? v.settled.compact) ∧
      ∀ v ∈ values, v.settled.ReadsBack := by
  have kinds : dialect.containment = .functions ∨ dialect.containment = .operators := by
    cases kind : dialect.containment with
    | operators => exact .inr rfl
    | functions => exact .inl rfl
    | patterns => exact absurd kind documents
  have flat : ∀ item ∈ values.map Json.settled, item.isFlat = true := by
    intro item member
    obtain ⟨v, _, rfl⟩ := List.mem_map.1 member
    exact v.settled_isFlat
  obtain ⟨items, read, each⟩ := Json.read?_items flat
  obtain ⟨contains, notContains, containsAny⟩ := translation?_elements query dialect key given
  refine ⟨(Json.array (values.map Json.settled)).compact, _, contains, notContains, ?_,
    fun functions => ⟨_, containsAny, ?_⟩, ⟨items, read, ?_⟩,
    fun v _ => Json.readsBack_of_flat v.settled_isFlat⟩
  · rw [bindings_containment _ _ (kinds.imp_right fun operators => ⟨operators, rfl⟩), arrayDocument_ofJson]
  · rw [bindings_containment _ _ (.inl functions), arrayDocument_ofJson]
  · rw [each, List.map_map]
    rfl

/-- A label, a number and a list of labels: the list is an item that is its text. -/
theorem mixed_tags_in_a_document :
    let persons := Query.plain "persons" .read
    let tags : List Json := [.string "say \"hi\"", .number (.int 17 (by decide)), .array [.string "a"]]
    Dialect.mysql.containment ≠ .patterns ∧ tags ≠ [] ∧
      ∃ document any, persons.translation? .mysql ⟨"tags", .containsAny tags⟩ = some any ∧
        bindings (any.sql .mysql) = [.string document] ∧
        ∃ items, Json.Document.read? document = some (.array items) ∧
          items.map Json.Document.toJson? = [some (.string "say \"hi\""),
            some (.number (.int 17 (by decide))), some (.string "[\"a\"]")] := by
  intro persons tags
  have holds : Dialect.mysql.containment ≠ .patterns := by decide
  have given : tags ≠ [] := by simp [tags]
  obtain ⟨document, _, _, _, _, functions, ⟨items, read, each⟩, _⟩ :=
    document_lists_elements persons holds "tags" given
  obtain ⟨any, translated, bound⟩ := functions rfl
  exact ⟨holds, given, document, any, translated, bound, items, read, each.trans (by decide +kernel)⟩

/-- An element is not always in the document as it was: a list in the list is its text. -/
theorem nested_list_bound_as_text :
    let persons := Query.plain "persons" .read
    let tags : List Json := [.array [.string "a"]]
    (∃ p, persons.translation? .postgres ⟨"tags", .contains tags⟩ = some p ∧
      bindings (p.sql .postgres) = [.string "[\"[\\\"a\\\"]\"]"]) ∧
    ¬ ∀ (query : Query) (dialect : Dialect) (key : String) (values : List Json) (p : Predicate),
      dialect.containment ≠ .patterns → values ≠ [] →
      query.translation? dialect ⟨key, .contains values⟩ = some p →
      ∃ document, bindings (p.sql dialect) = [.string document] ∧
        Json.parse? document = some (.array values) := by
  intro persons tags
  have bound : ∃ p, persons.translation? .postgres ⟨"tags", .contains tags⟩ = some p ∧
      bindings (p.sql .postgres) = [.string "[\"[\\\"a\\\"]\"]"] := ⟨_, rfl, by decide +kernel⟩
  refine ⟨bound, fun claimed => ?_⟩
  obtain ⟨p, translated, binding⟩ := bound
  obtain ⟨document, same, read⟩ := claimed persons .postgres "tags" tags p (by decide) (by simp [tags])
    translated
  rw [binding] at same
  cases same
  revert read
  decide +kernel

end Polyquery
