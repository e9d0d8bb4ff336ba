import Polyquery.Proofs.Alignment
import Polyquery.Proofs.FilterPasses
import Polyquery.Proofs.LikePatterns
import Polyquery.Proofs.Patterns
import Polyquery.Proofs.ScalarTexts
import Polyquery.Proofs.WriteFilters

/-! Patterns in lower case. A dialect that cannot ignore case by itself compares the
lower-cased column with a pattern, and a capital letter in the pattern can never be met.
Text filters lower-case what they look for. Elements of arrays are not all treated so:
texts are lower-cased, numbers and truth values have no capitals, but null is written
`NULL`, and an instant has the `T` and the `Z` of a strict timestamp. -/
namespace Polyquery
open Sql Text

/-! ## What is looked for -/

/-- What a pattern is made of. -/
inductive Sought where
  /-- A text that a column begins with. -/
  | beginning (text : String)
  /-- A text that a column has as a part. -/
  | part (text : String)
  /-- An element of an array that is searched as a text. -/
  | element (json : Json)

namespace Sought

/-- The pattern for what is looked for. -/
def pattern : Sought → String
  | .beginning text => lower text ++ "%"
  | .part text => "%" ++ lower text ++ "%"
  | .element json => elementPattern (Value.ofJson json)

/-- An element whose text is written with capital letters. -/
def isCapital : Sought → Bool
  | .element json =>
    match Value.ofJson json with
    | .null | .instant _ => true
    | .bool _ | .int _ | .float _ | .string _ => false
  | .beginning _ | .part _ => false

end Sought

/-- What the patterns of a test look for. -/
def Test.sought (dialect : Dialect) : Test Json → List Sought
  | .string value => (Value.ofJson value).text?.toList.map .beginning
  | .fuzzy value => (Value.ofJson value).text?.toList.map .part
  | .contains values | .notContains values | .containsAny values =>
    if dialect.containment = .patterns then values.map .element else []
  | .oneOf _ | .range _ _ | .equal _ | .notEqual _ | .empty | .notEmpty => []

namespace Query

/-- What is looked for by the filters that a pass takes up, in their order. -/
def passSought (query : Query) (dialect : Dialect) (pass : Pass) : List Sought :=
  (query.filterList.filter fun filter => pass.takes filter.key).flatMap fun filter =>
    filter.test.sought dialect

/-- What the patterns of a query look for. A read takes up the filters on its own table
first. -/
def sought (query : Query) (dialect : Dialect) : List Sought :=
  match query.operation with
  | .read => query.passSought dialect .base ++ query.passSought dialect .related
  | .update | .delete => query.passSought dialect .base
  | .create | .bulkCreate | .createTable | .updateTable | .deleteTable => []

end Query

/-! ## Patterns of a query -/

section
variable {dialect : Dialect} {column : ColumnRef} {query : Query} (folds : dialect.ignoresCase = false)
include folds

theorem patterns_textPredicate (value : Value) (pattern : String → String) :
    (textPredicate dialect column value pattern).toList.flatMap Predicate.patterns =
      value.text?.toList.map fun text => .string (pattern (lower text)) := by
  unfold textPredicate
  cases value.text? <;>
    simp [folds, patterns_like]

/-- Elements are looked for with patterns only where arrays are searched as texts. -/
theorem patterns_containment (values : List Json) (any : Bool) :
    (containment dialect column (values.map Value.ofJson) any).patterns =
      (if dialect.containment = .patterns then values.map Sought.element else []).map
        fun s => .string s.pattern := by
  have likes (op : Connective) : (Predicate.group op ((values.map Value.ofJson).map fun value =>
      .like column (.string (elementPattern value)))).patterns =
        values.map fun json => .string (elementPattern (Value.ofJson json)) := by
    simp only [patterns_group, List.flatMap_map, patterns_like]
    exact List.map_eq_flatMap.symm
  cases dialect with
  | postgres => cases folds
  | mysql | mariadb => rfl
  | sqlServer | oracle =>
    refine (likes (if any then .or else .and)).trans ?_
    simp [Dialect.containment, Sought.pattern, Function.comp_def]

/-- The patterns of a test are those of what it looks for. -/
theorem patterns_predicate? (test : Test Json) :
    ((test.map Value.ofJson).predicate? dialect column).toList.flatMap Predicate.patterns =
      (test.sought dialect).map fun s => .string s.pattern := by
  cases test with
  | string value | fuzzy value =>
    simp [Test.map, Test.predicate?, patterns_textPredicate folds, Test.sought, Function.comp_def,
      Sought.pattern]
  | contains values | containsAny values =>
    simp only [Test.map, Test.predicate?, Test.sought]
    split
    · next none => simp_all
    · simpa using patterns_containment folds values _
  | notContains values =>
    simp only [Test.map, Test.predicate?, Test.sought]
    split
    · next none => simp_all
    · simpa using patterns_containment folds values false
  | equal value | notEqual value =>
    simp only [Test.map, Test.predicate?, Test.sought]
    cases Value.ofJson value <;> rfl
  | range low high =>
    simp only [Test.map, Test.predicate?, Test.sought]
    split <;> rfl
  | oneOf | empty | notEmpty => rfl

/-- The condition of a pass has the patterns of what its filters look for. -/
theorem patterns_pass (query : Query) (pass : Pass) :
    (query.condition dialect pass query.aliases).patterns =
      (query.passSought dialect pass).map fun s => .string s.pattern := by
  rw [condition_eq, patterns_condition, List.filterMap_eq_flatMap_toList, List.flatMap_assoc, Query.passSought,
    List.map_flatMap]
  exact List.flatMap_congr fun filter _ => patterns_predicate? folds filter.test

/-- The plan of a query has the patterns of what it looks for. -/
theorem patterns_plan {cap : Nat} {returning : Bool} {plan : Statement}
    (planned : query.plan dialect cap returning = .ok plan) :
    plan.patterns = (query.sought dialect).map fun s => .string s.pattern := by
  have write : (query.condition dialect .base .empty).patterns =
      (query.passSought dialect .base).map fun s => .string s.pattern :=
    patterns_pass folds query.unaliased .base
  unfold Query.plan at planned
  unfold Query.sought
  split at planned
  · next reads =>
    obtain ⟨read, selected, rfl⟩ := Query.ok_of_map_ok planned
    obtain ⟨window, joins, _, _, rfl⟩ := Query.select_ok selected
    simp [reads, Statement.patterns, Select.patterns, Query.pageClauses, Query.outerClauses,
      patterns_pass folds]
  · next creates =>
    obtain ⟨insert, _, rfl⟩ := Query.ok_of_map_ok planned
    simp [creates, Statement.patterns]
  · next bulk =>
    obtain ⟨insert, _, rfl⟩ := Query.ok_of_map_ok planned
    simp [bulk, Statement.patterns]
  · next updates =>
    obtain ⟨update, updated, rfl⟩ := Query.ok_of_map_ok planned
    rw [updates, Statement.patterns, Query.update_ok updated, write]
  · next deletes =>
    cases planned
    rw [deletes]
    exact write
  all_goals cases planned

end

/-! ## Case -/

/-- A text between percent signs is in lower case exactly if the text is. -/
theorem lower_between (text : String) :
    lower ("%" ++ text ++ "%") = "%" ++ text ++ "%" ↔ lower text = text := by
  have percent : ∀ c ∈ "%".toList, Settled c := List.all_iff_forall_prop.1 (by decide +kernel)
  simp only [lower_eq_self, String.toList_append, List.forall_mem_append]
  exact ⟨fun settled => settled.1.2, fun settled => ⟨⟨percent, settled⟩, percent⟩⟩

theorem lower_lower (text : String) : lower (lower text) = lower text :=
  lower_eq_self.2 (settled_lower text)

/-- The pattern of an element is in lower case unless its text is written with capitals. -/
theorem lower_elementPattern (json : Json) :
    lower (elementPattern (Value.ofJson json)) = elementPattern (Value.ofJson json) ↔
      (Sought.element json).isCapital = false := by
  have small (value : Value) (scalar : value.IsScalar) :
      lower ("%" ++ value.display ++ "%") = "%" ++ value.display ++ "%" :=
    (lower_between _).2 (lower_eq_self.2 (settled_scalar (scalar_display scalar)))
  rw [Sought.isCapital]
  cases bound : Value.ofJson json with
  | null =>
    have capital : lower "%NULL%" ≠ "%NULL%" := by decide +kernel
    exact iff_of_false capital (by simp)
  | bool b => exact iff_of_true (small (.bool b) trivial) rfl
  | int n => exact iff_of_true (small (.int n) trivial) rfl
  | float x => exact iff_of_true (small (.float x) (isNaN_ofJson bound)) rfl
  | string s =>
    have open' : ∀ c ∈ "%\"".toList, Settled c := List.all_iff_forall_prop.1 (by decide +kernel)
    have close' : ∀ c ∈ "\"%".toList, Settled c := List.all_iff_forall_prop.1 (by decide +kernel)
    have settled : lower ("%\"" ++ lower s ++ "\"%") = "%\"" ++ lower s ++ "\"%" := by
      simp only [lower_eq_self, String.toList_append, List.forall_mem_append]
      exact ⟨⟨open', settled_lower s⟩, close'⟩
    exact iff_of_true settled rfl
  | instant t =>
    have capital : lower t.iso ≠ t.iso := by
      intro same
      have inside : 'T' ∈ t.iso.toList := by simp [Calendar.Instant.iso]
      exact absurd (lower_eq_self.1 same 'T' inside) (by decide +kernel)
    exact iff_of_false (fun same => capital ((lower_between _).1 same)) (by simp)

/-- The pattern for what is looked for is in lower case unless the text of an element is
written with capitals. -/
theorem lower_pattern (s : Sought) : lower s.pattern = s.pattern ↔ s.isCapital = false := by
  cases s with
  | beginning text =>
    exact iff_of_true (by rw [Sought.pattern, lower_beginning, lower_lower]) rfl
  | part text => exact iff_of_true ((lower_between _).2 (lower_lower text)) rfl
  | element json => exact lower_elementPattern json

/-- A reader who puts the values of a compiled statement in their places has the tokens
of its plan. -/
theorem plan_read_back {compiler : Compiler} {query : Query} {compiled : Compiled}
    (compiles : compiler.compile query = .ok compiled) :
    ∃ plan lexemes, query.plan compiler.dialect compiler.rowCap compiler.returning = .ok plan ∧
      scan compiler.dialect compiled.text.toList = some lexemes ∧
      putBack lexemes compiled.bindings = some ((plan.sql compiler.dialect).filter (· ≠ .space)) := by
  obtain ⟨plan, planned, rfl, legible⟩ := compile_ok compiles
  refine ⟨plan, _, planned, scan_write _ legible, ?_⟩
  rw [Compiler.write_bindings]
  exact putBack_lexemes 1 _

/-- Where a match does not ignore case by itself, the values behind `LIKE` in a compiled
statement are the patterns of what the query looks for, in its order. Each of them is in
lower case, but for the elements of arrays that are bound as null or as an instant. -/
theorem patterns_behind_like {compiler : Compiler} {query : Query} {compiled : Compiled}
    (folds : compiler.dialect.ignoresCase = false)
    (compiles : compiler.compile query = .ok compiled) :
    ∃ lexemes tokens, scan compiler.dialect compiled.text.toList = some lexemes ∧
      putBack lexemes compiled.bindings = some tokens ∧
      behindLike tokens =
        (query.sought compiler.dialect).map (fun sought => .string sought.pattern) ∧
      ∀ sought ∈ query.sought compiler.dialect,
        (lower sought.pattern = sought.pattern ↔ sought.isCapital = false) := by
  obtain ⟨plan, lexemes, planned, scanned, back⟩ := plan_read_back compiles
  have behind : behindLike ((plan.sql compiler.dialect).filter (· ≠ .space)) = plan.patterns := by
    simpa [behindLike] using shows_statement folds plan []
  exact ⟨lexemes, _, scanned, back, behind.trans (patterns_plan folds planned),
    fun sought _ => lower_pattern sought⟩

/-- A text filter, and elements of every kind. -/
def labelledPersons : Query :=
  { Query.plain "persons" .read with
    filters := some ⟨true, [⟨"name", .fuzzy (.string "ANN")⟩,
      ⟨"labels", .notContains [.string "VIP", .number (.int 7 (by decide)), .bool true, .null,
        .string "2024-03-01T12:30:00.000Z"]⟩]⟩ }

theorem labelled_persons_are_sought :
    Dialect.oracle.ignoresCase = false ∧
      ∃ compiled, (Compiler.of .oracle 10).compile labelledPersons = .ok compiled ∧
        ∃ lexemes tokens, scan .oracle compiled.text.toList = some lexemes ∧
          putBack lexemes compiled.bindings = some tokens ∧
          behindLike tokens = [.string "%ann%", .string "%\"vip\"%", .string "%7%", .string "%true%",
            .string "%NULL%", .string "%2024-03-01T12:30:00.000Z%"] ∧
          ∀ sought ∈ labelledPersons.sought .oracle,
            (lower sought.pattern = sought.pattern ↔ sought.isCapital = false) := by
  have folds : (Compiler.of .oracle 10).dialect.ignoresCase = false := rfl
  have compiles : (Compiler.of .oracle 10).compile labelledPersons = .ok _ := rfl
  obtain ⟨lexemes, tokens, scanned, back, behind, cases⟩ := patterns_behind_like folds compiles
  exact ⟨folds, _, compiles, lexemes, tokens, scanned, back, behind.trans (by decide +kernel), cases⟩

/-- Persons with a timestamp among their tags. -/
def taggedPersons : Query :=
  { Query.plain "persons" .read with
    filters := some ⟨false, [⟨"tags", .contains [.string "2024-03-01T12:30:00.000Z"]⟩]⟩ }

/-- Not every pattern behind `LIKE` is in lower case: a timestamp keeps its letters, and
no lower-cased column has them. -/
theorem timestamp_sought_with_capitals :
    (∃ compiled, (Compiler.of .sqlServer 5000).compile taggedPersons = .ok compiled ∧
      compiled.text = "SELECT * FROM (SELECT TOP (5000) * FROM [persons]" ++
        " WHERE LOWER([persons].[tags]) LIKE @p1) AS [persons]" ∧
      compiled.bindings = [.string "%2024-03-01T12:30:00.000Z%"]) ∧
    ¬ ∀ (compiler : Compiler) (query : Query) (compiled : Compiled) (lexemes : List Lexeme)
        (tokens : List Token), compiler.dialect.ignoresCase = false →
      compiler.compile query = .ok compiled →
      scan compiler.dialect compiled.text.toList = some lexemes →
      putBack lexemes compiled.bindings = some tokens →
      ∀ v ∈ behindLike tokens, ∃ text, v = .string text ∧ lower text = text := by
  have compiles : (Compiler.of .sqlServer 5000).compile taggedPersons = .ok _ := rfl
  refine ⟨⟨_, compiles, by decide +kernel, by decide +kernel⟩, fun claimed => ?_⟩
  obtain ⟨plan, lexemes, planned, scanned, back⟩ := plan_read_back compiles
  cases planned
  obtain ⟨text, same, small⟩ := claimed _ _ _ _ _ rfl compiles scanned back
    (.string "%2024-03-01T12:30:00.000Z%") (by decide +kernel)
  cases same
  revert small
  decide +kernel

end Polyquery
