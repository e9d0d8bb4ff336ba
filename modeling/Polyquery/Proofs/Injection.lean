import Polyquery.Proofs.Plans
import Polyquery.Proofs.Rendering
import Polyquery.Proofs.Translation

/-! No text of a query gets out of its quotes. The statement of a query fits its
dialect, so it is legible, so a reader finds in the text exactly the words,
marks, numbers, names and placeholders that were written into it. -/
namespace Polyquery
open Sql

/-- What a compiled text may hold: numbers of the given ones and no more
placeholders than there are values. Where brackets quote names there are no
others. -/
def Sql.Lexeme.Allowed (dialect : Dialect) (numbers : List Nat) (values : Nat) : Lexeme → Prop
  | .word _ | .name _ => True
  | .mark m => m = .openBracket ∨ m = .closeBracket → dialect ≠ .sqlServer
  | .number n => n ∈ numbers
  | .placeholder written =>
    ∃ index, 1 ≤ index ∧ index ≤ values ∧ written = dialect.placeholderNumber index

/-- The numbers that are written into the statement of a query: the row cap, the
window of its page, and the two of the conditions and rows that stand for
nothing. -/
def Query.statementNumbers (query : Query) (cap : Nat) : List Nat :=
  0 :: 1 :: cap :: match Window.ofPaging query.paging cap with
    | .ok window => window.limit :: window.offset.toList
    | .error _ => []

variable {dialect : Dialect} {query : Query}

theorem pageClauses_fits {cap : Nat} {window : Window}
    (opened : Window.ofPaging query.paging cap = .ok window) :
    (query.pageClauses dialect window).Fits dialect (query.statementNumbers cap) where
  condition := query_condition_fits query dialect .base query.aliases
  limit := by
    intro n written
    cases written
    simp [Query.statementNumbers, opened]
  offset := by
    intro n written
    have skipped : window.offset = some n := written
    simp [Query.statementNumbers, opened, skipped]

theorem outerClauses_fits (cap : Nat) (joins : List Join) :
    (query.outerClauses dialect cap joins).Fits dialect (query.statementNumbers cap) where
  condition := query_condition_fits query dialect .related query.aliases
  limit := by
    intro n written
    simp only [Query.outerClauses] at written
    split at written
    · cases written
    · cases written
      simp [Query.statementNumbers]
  offset := by
    intro n written
    cases written

/-- Whatever a query is planned to fits the dialect, with the query's numbers. -/
theorem plan_fits {cap : Nat} {returning : Bool} {plan : Statement}
    (planned : query.plan dialect cap returning = .ok plan) :
    plan.Fits dialect (query.statementNumbers cap) := by
  rcases Query.plan_ok planned with ⟨window, joins, _, opened, rfl⟩ | ⟨write, rfl⟩ |
    ⟨write, rfl, conditioned⟩ | ⟨write, rfl, conditioned⟩
  · exact ⟨pageClauses_fits opened, outerClauses_fits cap joins⟩
  · trivial
  · rw [Statement.Fits, conditioned]
    exact query_condition_fits query dialect .base .empty
  · rw [Statement.Fits, conditioned]
    exact query_condition_fits query dialect .base .empty

namespace Sql

/-- The lexemes of legible tokens are allowed, with a placeholder for each value. -/
theorem Legible.allowed {numbers : List Nat} {sql : Sql} {behindAtom : Bool} {index last : Nat}
    (legible : Legible dialect numbers behindAtom sql) (positive : 1 ≤ index)
    (counted : index + (bindings sql).length ≤ last + 1) :
    ∀ lexeme ∈ lexemesFrom dialect index sql, lexeme.Allowed dialect numbers last := by
  induction sql generalizing behindAtom index with
  | nil => simp [lexemesFrom]
  | cons token rest ih =>
    obtain ⟨admissible, _, following⟩ := legible
    intro lexeme found
    rw [lexemesFrom, List.mem_append] at found
    rcases found with here | later
    · have read : token.lexeme? dialect index = some lexeme := by simpa using here
      cases token with
      | word | name => cases read; trivial
      | space => cases read
      | mark m =>
        cases read
        exact admissible_mark.1 admissible
      | number n =>
        cases read
        exact admissible
      | bound v =>
        cases read
        simp only [bindings, List.filterMap_cons, List.length_cons] at counted
        exact ⟨index, positive, by omega, rfl⟩
    · have behind := index_behind index token rest
      exact ih following (by omega) (by omega) lexeme later

end Sql

/-- The text of a legible statement is read as its tokens. -/
theorem scan_write {compiler : Compiler} {plan : Statement} {numbers : List Nat} (operation : Operation)
    (legible : Legible compiler.dialect numbers false (plan.sql compiler.dialect)) :
    scan compiler.dialect (compiler.write operation plan).text.toList =
      some (lexemesFrom compiler.dialect 1 (plan.sql compiler.dialect)) := by
  rw [Compiler.write_text]
  exact legible.scans.scan

/-- A compiled text is the text of a legible plan. -/
theorem compile_ok {compiler : Compiler} {compiled : Compiled}
    (compiles : compiler.compile query = .ok compiled) :
    ∃ plan, query.plan compiler.dialect compiler.rowCap compiler.returning = .ok plan ∧
      compiled = compiler.write query.operation plan ∧
      Legible compiler.dialect (query.statementNumbers compiler.rowCap) false
        (plan.sql compiler.dialect) := by
  obtain ⟨plan, planned, written⟩ := Query.ok_of_map_ok compiles
  exact ⟨plan, planned, written,
    legible_statement (by simp [Query.statementNumbers]) (by simp [Query.statementNumbers])
      (plan_fits planned)⟩

/-- Whatever the names and values of a query are, a reader of the compiled text
gets to its end: every quoted identifier is closed and is one name of the plan,
and all the rest is words, marks, numbers of the query and placeholders of the
dialect. -/
theorem compiled_text_reads_as_planned {compiler : Compiler} {compiled : Compiled}
    (compiles : compiler.compile query = .ok compiled) :
    ∃ plan, query.plan compiler.dialect compiler.rowCap compiler.returning = .ok plan ∧
      scan compiler.dialect compiled.text.toList =
        some (lexemesFrom compiler.dialect 1 (plan.sql compiler.dialect)) ∧
      ∀ lexeme ∈ lexemesFrom compiler.dialect 1 (plan.sql compiler.dialect),
        lexeme.Allowed compiler.dialect (query.statementNumbers compiler.rowCap)
          compiled.bindings.length := by
  obtain ⟨plan, planned, rfl, legible⟩ := compile_ok compiles
  refine ⟨plan, planned, scan_write _ legible, legible.allowed (Nat.le_refl 1) ?_⟩
  rw [Compiler.write_bindings]
  omega

/-- A query whose names try to get out of their quotes. -/
def breakingOut : Query :=
  { Query.plain "a\"; DROP TABLE b; --" .read with
    fields := some ["\"\"", "", "SELECT $1"]
    filters := some ⟨true, [⟨"x\" OR 1 = 1", .equal (.string "' OR 1 = 1")⟩,
      ⟨"\".\"", .oneOf []⟩]⟩ }

theorem breaking_out_reads_as_planned :
    ∃ compiled, (Compiler.of .postgres 10).compile breakingOut = .ok compiled ∧
      compiled.bindings.length = 1 ∧
      ∃ plan, breakingOut.plan .postgres 10 true = .ok plan ∧
        scan .postgres compiled.text.toList = some (lexemesFrom .postgres 1 (plan.sql .postgres)) ∧
        ∀ lexeme ∈ lexemesFrom .postgres 1 (plan.sql .postgres),
          lexeme.Allowed .postgres (breakingOut.statementNumbers 10) compiled.bindings.length := by
  have compiles : (Compiler.of .postgres 10).compile breakingOut = .ok _ := rfl
  exact ⟨_, compiles, rfl, compiled_text_reads_as_planned compiles⟩

end Polyquery
