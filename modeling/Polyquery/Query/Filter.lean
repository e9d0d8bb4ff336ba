/-! Search filters. A filter tests the column under its key; the values inside
are JSON as it was received, or bound values after normalization. -/
namespace Polyquery

/-- The kinds of tests, in the order in which they are compiled. -/
inductive Category where
  | oneOf
  | string
  | fuzzy
  | range
  | equal
  | notEqual
  | empty
  | notEmpty
  | contains
  | notContains
  | containsAny
  deriving DecidableEq

namespace Category

def all : List Category :=
  [.oneOf, .string, .fuzzy, .range, .equal, .notEqual, .empty, .notEmpty, .contains,
    .notContains, .containsAny]

def name : Category → String
  | .oneOf => "oneOf"
  | .string => "string"
  | .fuzzy => "fuzzy"
  | .range => "range"
  | .equal => "equal"
  | .notEqual => "notEqual"
  | .empty => "empty"
  | .notEmpty => "notEmpty"
  | .contains => "contains"
  | .notContains => "notContains"
  | .containsAny => "containsAny"

end Category

/-- What a filter asks of its column. -/
inductive Test (α : Type) where
  /-- One of the listed values. -/
  | oneOf (values : List α)
  /-- A text that starts so, in any case of letters. -/
  | string (value : α)
  /-- A text with this part, in any case of letters. -/
  | fuzzy (value : α)
  /-- Between two bounds, or beyond the one that is given. -/
  | range (low high : Option α)
  | equal (value : α)
  | notEqual (value : α)
  | empty
  | notEmpty
  /-- An array with every element. -/
  | contains (values : List α)
  /-- An array without one of the elements. -/
  | notContains (values : List α)
  /-- An array with at least one of the elements. -/
  | containsAny (values : List α)
  deriving DecidableEq

def Test.category {α : Type} : Test α → Category
  | .oneOf _ => .oneOf
  | .string _ => .string
  | .fuzzy _ => .fuzzy
  | .range _ _ => .range
  | .equal _ => .equal
  | .notEqual _ => .notEqual
  | .empty => .empty
  | .notEmpty => .notEmpty
  | .contains _ => .contains
  | .notContains _ => .notContains
  | .containsAny _ => .containsAny

/-- The same test of other values. -/
def Test.map {α β : Type} (f : α → β) : Test α → Test β
  | .oneOf values => .oneOf (values.map f)
  | .string value => .string (f value)
  | .fuzzy value => .fuzzy (f value)
  | .range low high => .range (low.map f) (high.map f)
  | .equal value => .equal (f value)
  | .notEqual value => .notEqual (f value)
  | .empty => .empty
  | .notEmpty => .notEmpty
  | .contains values => .contains (values.map f)
  | .notContains values => .notContains (values.map f)
  | .containsAny values => .containsAny (values.map f)

/-- A test of the column under a key. -/
structure Filter (α : Type) where
  key : String
  test : Test α
  deriving DecidableEq

def Filter.map {α β : Type} (f : α → β) (filter : Filter α) : Filter β :=
  ⟨filter.key, filter.test.map f⟩

/-- The filters of a query: all of them hold, or at least one. -/
structure Filters (α : Type) where
  anyOf : Bool
  list : List (Filter α)
  deriving DecidableEq

namespace Filters
variable {α β : Type}

def none : Filters α := ⟨false, []⟩

def map (f : α → β) (filters : Filters α) : Filters β :=
  ⟨filters.anyOf, filters.list.map (Filter.map f)⟩

/-- One more filter at the end. -/
def add (filters : Filters α) (key : String) (test : Test α) : Filters α :=
  { filters with list := filters.list ++ [⟨key, test⟩] }

end Filters
end Polyquery
