import Polyquery.Wire.Decoder
import Polyquery.Json.Printer
import Polyquery.Query.Filter

/-! The wire form of filters: under the name of a category, an object from keys
to payloads. Reading goes through the categories in their fixed order, so the
order of the document counts only within a category. -/
namespace Polyquery.Wire
open Json

/-- A payload that should be a list; anything else is a list of one. -/
def asList : Json → List Json
  | .array items => items
  | single => [single]

/-- A payload that should be a text; anything else but null stands for its
compact text. -/
def asText : Json → Option Json
  | .null => none
  | .string s => some (.string s)
  | other => some (.string other.compact)

/-- A bound of a range; an empty object stands for an open one. -/
def asBound : Option Json → Option Json
  | none | some .null | some (.object []) => none
  | some bound => some bound

/-- The value under a name of an object. -/
def member? (name : String) (members : List (String × Json)) : Option Json :=
  (members.find? fun entry => entry.1 == name).map Prod.snd

/-- The test that a payload asks for; nothing when the entry is to be skipped. -/
def testOf (category : Category) (payload : Json) : Option (Test Json) :=
  match category with
  | .oneOf => some (.oneOf (asList payload))
  | .string => (asText payload).map .string
  | .fuzzy => (asText payload).map .fuzzy
  | .range =>
    match payload with
    | .object bounds =>
      some (.range (asBound (member? "low" bounds)) (asBound (member? "high" bounds)))
    | _ => none
  | .equal => some (.equal payload)
  | .notEqual => some (.notEqual payload)
  | .empty => some .empty
  | .notEmpty => some .notEmpty
  | .contains => if payload.isNull then none else some (.contains (asList payload))
  | .notContains => if payload.isNull then none else some (.notContains (asList payload))
  | .containsAny => if payload.isNull then none else some (.containsAny (asList payload))

/-- The payload that a test is written as. -/
def payloadOf : Test Json → Json
  | .oneOf values | .contains values | .notContains values | .containsAny values => .array values
  | .string value | .fuzzy value | .equal value | .notEqual value => value
  | .range low high => object [whenSome "low" low id, whenSome "high" high id]
  | .empty | .notEmpty => .bool true

/-- The filters of one category, in the order of its entries. -/
def filtersOf (category : Category) (entries : Record Json) : List (Filter Json) :=
  entries.entries.filterMap fun (key, payload) => (testOf category payload).map fun test => ⟨key, test⟩

/-- Reads filters. -/
def filters : Decoder (Filters Json) := fun document => do
  let found ← fields (["allOr"] :: Category.all.map fun category => [category.name]) document
  match found with
  | anyOf :: categories =>
    let anyOf ← defaulted false bool anyOf
    let entries ← categories.mapM (optional (record json))
    let list := (Category.all.zip entries).flatMap fun (category, entries) =>
      filtersOf category (entries.getD .empty)
    some ⟨anyOf, list⟩
  | [] => none

/-- The entries of one category; a key that comes twice keeps its first place
and its last payload. -/
def entriesOf (category : Category) (list : List (Filter Json)) : Record Json :=
  .ofList ((list.filter fun filter => filter.test.category == category).map fun filter =>
    (filter.key, payloadOf filter.test))

/-- Writes filters; a category without filters is left out. -/
def ofFilters (filters : Filters Json) : Json :=
  let categories := Category.all.map fun category =>
    let entries := entriesOf category filters.list
    if entries.isEmpty then none else some (category.name, ofRecord entries)
  object ((if filters.anyOf then always "allOr" (.bool true) else none) :: categories)

end Polyquery.Wire
