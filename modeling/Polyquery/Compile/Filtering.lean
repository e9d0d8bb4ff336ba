import Polyquery.Compile.Key
import Polyquery.Query.Filter
import Polyquery.Text.Lowercase
import Polyquery.Value.Normalize

/-! From filters to predicates. A filter without anything to compare with
yields no predicate. -/
namespace Polyquery
open Sql

/-- The pattern predicate for a text, lower-cased where the match does not
ignore case by itself. Null has no text. -/
def textPredicate (dialect : Dialect) (column : ColumnRef) (value : Value)
    (pattern : String → String) : Option Predicate :=
  value.text?.map fun text =>
    .like column (.string (pattern (if dialect.ignoresCase then text else Text.lower text)))

/-- Elements as the text of a JSON array. -/
def arrayDocument (values : List Value) : Value :=
  .string (Json.compact (.array (values.map Value.toJson)))

/-- The pattern that finds an element in the text of an array. -/
def elementPattern : Value → String
  | .string s => "%\"" ++ Text.lower s ++ "\"%"
  | other => "%" ++ other.display ++ "%"

/-- The predicate that an array column has every element, or at least one. -/
def containment (dialect : Dialect) (column : ColumnRef) (values : List Value) (any : Bool) :
    Predicate :=
  match dialect.containment with
  | .operators =>
    if any then .hasAny column (values.map fun value => .string (value.text?.getD ""))
    else .containsJson column (arrayDocument values)
  | .functions =>
    .jsonFunction column (if any then .overlaps else .contains) (arrayDocument values)
  | .patterns =>
    .group (if any then .or else .and) (values.map fun value =>
      .like column (.string (elementPattern value)))

/-- The predicate of a test on a column. -/
def Test.predicate? (dialect : Dialect) (column : ColumnRef) : Test Value → Option Predicate
  | .oneOf values => some (.oneOf column values)
  | .string value => textPredicate dialect column value fun text => text ++ "%"
  | .fuzzy value => textPredicate dialect column value fun text => "%" ++ text ++ "%"
  | .range low high =>
    match low.filter Value.isBound, high.filter Value.isBound with
    | some low, some high => some (.between column low high)
    | some low, none => some (.compare column .greater low)
    | none, some high => some (.compare column .less high)
    | none, none => none
  | .equal .null => some (.isNull column false)
  | .equal value => some (.compare column .equal value)
  | .notEqual .null => some (.isNull column true)
  | .notEqual value => some (.compare column .notEqual value)
  | .empty => some (.isNull column false)
  | .notEmpty => some (.isNull column true)
  | .contains values =>
    if values.isEmpty then none else some (containment dialect column values false)
  | .notContains values =>
    if values.isEmpty then none else some (.not (containment dialect column values false))
  | .containsAny values =>
    if values.isEmpty then none else some (containment dialect column values true)

/-- The predicate of a filter; nothing for a filter of the other pass. -/
def Filter.predicate? (dialect : Dialect) (scope : Scope) (filter : Filter Value) :
    Option Predicate :=
  (scope.resolve filter.key).bind fun column => filter.test.predicate? dialect column

/-- The condition of the filters of one pass. -/
def Filters.condition (dialect : Dialect) (scope : Scope) (filters : Filters Value) : Condition :=
  ⟨if filters.anyOf then .or else .and, filters.list.filterMap (Filter.predicate? dialect scope)⟩

/-- The filters with their values bound. -/
def Filters.normalized (filters : Filters Json) : Filters Value := filters.map Value.ofJson

end Polyquery
