import Polyquery.Proofs.FilterPasses
import Polyquery.Proofs.Meaning
import Polyquery.Proofs.SelectPhrases

/-! The page in the text of a read. What a read joins, which columns it asks for and
which rows of other tables it keeps is said in front of the derived table and behind it,
never inside; and nothing is bound in front of it. So reads that ask for the same page
have the same text between the parentheses of the derived table, and the same values
for it at the head of their bindings. -/
namespace Polyquery
open Sql

/-! ## Taking a text apart -/

/-- A compiled read, taken apart at the parentheses of its derived table. A reader who
knows only the grammar finds these parentheses, and inside of them the first
placeholders of the text. -/
structure PageIn (dialect : Dialect) (compiled : Compiled) where
  fore : List Char
  page : List Char
  behind : List Char
  /-- The values of the page. -/
  bound : List Value
  /-- The values of all that stands around the page. -/
  around : List Value
  before : List Lexeme
  inside : List Lexeme
  after : List Lexeme
  phrases : List Phrase
  text_eq : compiled.text.toList = fore ++ '(' :: page ++ ')' :: behind
  bindings_eq : compiled.bindings = bound ++ around
  scan_fore : scan dialect fore = some before
  scan_page : scan dialect page = some inside
  scan_text : scan dialect compiled.text.toList =
    some (before ++ .mark .open :: inside ++ .mark .close :: after)
  read : phrases? (before ++ .mark .open :: inside ++ .mark .close :: after) = some phrases
  derived : derived? phrases = some inside
  unbound : before.filterMap Lexeme.placeholder? = []
  numbered : inside.filterMap Lexeme.placeholder? =
    (List.range' 1 bound.length).map dialect.placeholderNumber

namespace Sql

variable {dialect : Dialect}

/-- Both parts of a legible text are legible. -/
theorem legible_parts {numbers : List Nat} {behindAtom : Bool} {a b : Sql}
    (legible : Legible dialect numbers behindAtom (a ++ b)) :
    Legible dialect numbers behindAtom a ∧ ∃ behind, Legible dialect numbers behind b := by
  induction a generalizing behindAtom with
  | nil => exact ⟨trivial, behindAtom, legible⟩
  | cons token rest ih =>
    obtain ⟨admissible, separate, following⟩ := legible
    obtain ⟨first, second⟩ := ih following
    exact ⟨⟨admissible, separate, first⟩, second⟩

/-- What a select says in front of its source. -/
def Clauses.fore (dialect : Dialect) (clauses : Clauses) : Sql :=
  .word .select :: .space :: dialect.limitInFront clauses.limit clauses.offset ++
    clauses.projection.sql ++ [.space, .word .from, .space]

/-- Nothing is bound in front of a source. -/
theorem bindings_fore (clauses : Clauses) : bindings (clauses.fore dialect) = [] := by
  simp [Clauses.fore, bindings_append]

/-- A derived table stands in parentheses behind `FROM`. -/
theorem derived_sql (dialect : Dialect) (page : Select) (label : String) (clauses : Clauses) :
    ∃ behind, Select.sql dialect (.derived page label clauses) =
      clauses.fore dialect ++ (parenthesized (page.sql dialect) ++ behind) := by
  obtain ⟨named, around⟩ := aliased_begins dialect (parenthesized (page.sql dialect)) [.name label]
  refine ⟨named ++ (clauses.joins.flatMap (fun join => .space :: join.sql dialect) ++
    clauses.condition.clause dialect ++ orderSql clauses.order ++
    dialect.limitBehind clauses.limit clauses.offset (!clauses.order.isEmpty)), ?_⟩
  simp [Select.sql, Clauses.sql, Clauses.fore, around]

end Sql

/-- The text of a select over a derived table is taken apart into what is in front of
the derived table, its own text, and what is behind it. -/
theorem page_in_text {dialect : Dialect} {compiled : Compiled} {numbers : List Nat} (page : Select)
    (label : String) (clauses : Clauses)
    (legible : Legible dialect numbers false (Select.sql dialect (.derived page label clauses)))
    (written : compiled.text = Sql.write dialect (Select.sql dialect (.derived page label clauses)))
    (bound : compiled.bindings = bindings (Select.sql dialect (.derived page label clauses))) :
    ∃ taken : PageIn dialect compiled,
      taken.page = writeFrom dialect 1 (page.sql dialect) ∧ taken.bound = page.values := by
  have phrases := @phrases?_of_select dialect (.derived page label clauses) 1
  obtain ⟨behind, whole⟩ := derived_sql dialect page label clauses
  have foreUnbound : bindings (clauses.fore dialect) = [] := bindings_fore clauses
  have textParts : compiled.text.toList = writeFrom dialect 1 (clauses.fore dialect) ++
      '(' :: writeFrom dialect 1 (page.sql dialect) ++ ')' ::
        writeFrom dialect (1 + (bindings (parenthesized (page.sql dialect))).length) behind := by
    rw [written, Sql.write, String.toList_ofList, whole, writeFrom_append, foreUnbound,
      writeFrom_append, writeFrom_parenthesized]
    simp only [List.length_nil, Nat.add_zero, List.append_assoc, List.cons_append, List.nil_append]
  have lexemeParts : lexemesFrom dialect 1 (Select.sql dialect (.derived page label clauses)) =
      lexemesFrom dialect 1 (clauses.fore dialect) ++
        .mark .open :: lexemesFrom dialect 1 (page.sql dialect) ++ .mark .close ::
          lexemesFrom dialect (1 + (bindings (parenthesized (page.sql dialect))).length) behind := by
    rw [whole, lexemesFrom_append, foreUnbound, lexemesFrom_append, lexemes_parenthesized]
    simp
  have boundParts : compiled.bindings = page.values ++ bindings behind := by
    rw [bound, whole, bindings_append, foreUnbound, bindings_append, bindings_parenthesized,
      bindings_select, List.nil_append]
  have scanned : scan dialect compiled.text.toList =
      some (lexemesFrom dialect 1 (Select.sql dialect (.derived page label clauses))) := by
    rw [written, Sql.write, String.toList_ofList]
    exact legible.scans.scan
  rw [whole] at legible
  obtain ⟨foreLegible, _, sourceLegible⟩ := legible_parts legible
  obtain ⟨_, _, withClose⟩ := legible_parts (a := [.mark .open]) (legible_parts sourceLegible).1
  rw [lexemeParts] at scanned phrases
  refine ⟨{ fore := _, page := _, behind := _, bound := page.values, around := _, before := _, inside := _,
            after := _, phrases := _, text_eq := textParts, bindings_eq := boundParts,
            scan_fore := foreLegible.scans.scan, scan_page := ?_, scan_text := scanned,
            read := phrases, derived := derived?_of_select page label clauses 1,
            unbound := ?_, numbered := ?_ }, rfl, rfl⟩
  · exact (legible_parts withClose).1.scans.scan
  · rw [placeholders_numbered, foreUnbound]
    rfl
  · rw [placeholders_numbered, bindings_select]

/-! ## What the page depends on -/

/-- The filters on the base table, in the order of the query. -/
def Query.baseFilters (query : Query) : List (Filter Json) :=
  query.filterList.filter fun filter => !Key.isRelated filter.key

/-- Two queries that agree in all that they say about the rows of the base table. They
may differ in what they join, in what they ask for, and in their filters on other
tables, wherever these stand between the filters on the base table. -/
structure Query.AsksSamePage (query other : Query) : Prop where
  tableName : query.tableName = other.tableName
  schema : query.endpoint.schema = other.endpoint.schema
  aliases : query.aliases = other.aliases
  sort : query.sort = other.sort
  paging : query.paging = other.paging
  table : query.table? = other.table?
  anyOf : (query.filters.getD .none).anyOf = (other.filters.getD .none).anyOf
  filters : query.baseFilters = other.baseFilters

namespace Query.AsksSamePage

variable {query other : Query} (same : query.AsksSamePage other)
include same

theorem aliasOf (table : String) : query.aliasOf table = other.aliasOf table := by
  unfold Query.aliasOf
  rw [same.aliases]

theorem pageTable : query.pageTable = other.pageTable := by
  unfold Query.pageTable Query.target
  rw [same.tableName, same.schema, same.aliases]

theorem order (dialect : Dialect) : query.order dialect = other.order dialect := by
  have reference : query.sortReference = other.sortReference := by
    unfold Query.sortReference
    rw [same.table, same.tableName, same.aliasOf]
  unfold Query.order
  rw [same.sort, same.table, same.paging, reference]

/-- A filter on the base table is translated without regard to the rest of the query. -/
theorem translation? (dialect : Dialect) (filter : Filter Json)
    (base : Key.isRelated filter.key = false) :
    query.translation? dialect filter = other.translation? dialect filter := by
  have column : query.filterColumn filter.key = other.filterColumn filter.key := by
    unfold Query.filterColumn
    rw [if_neg (by simp [base]), if_neg (by simp [base]), same.tableName, same.aliasOf]
  unfold Query.translation?
  rw [column]

theorem condition (dialect : Dialect) :
    query.condition dialect .base query.aliases = other.condition dialect .base other.aliases := by
  have connective : query.filterConnective = other.filterConnective := by
    unfold Query.filterConnective
    rw [same.anyOf]
  have translated : query.baseFilters.filterMap (query.translation? dialect) =
      other.baseFilters.filterMap (other.translation? dialect) := by
    rw [← same.filters]
    refine List.filterMap_congr fun filter member => same.translation? dialect filter ?_
    simpa using (List.mem_filter.1 member).2
  rw [condition_eq, condition_eq, connective]
  exact congrArg (Condition.mk _) translated

theorem pageClauses (dialect : Dialect) (window : Window) :
    query.pageClauses dialect window = other.pageClauses dialect window := by
  unfold Query.pageClauses
  rw [same.condition, same.order]

end Query.AsksSamePage

/-- A compiled read has its page in its derived table. -/
theorem read_has_page {compiler : Compiler} {query : Query} {compiled : Compiled}
    (reads : query.operation = .read) (compiles : compiler.compile query = .ok compiled) :
    ∃ window outer, Window.ofPaging query.paging compiler.rowCap = .ok window ∧
      query.plan compiler.dialect compiler.rowCap compiler.returning = .ok (.select (.derived
        (.table query.pageTable (query.pageClauses compiler.dialect window))
        (query.aliasOf query.tableName) outer)) ∧
      ∃ taken : PageIn compiler.dialect compiled,
        taken.page = writeFrom compiler.dialect 1 (Select.sql compiler.dialect
          (.table query.pageTable (query.pageClauses compiler.dialect window))) ∧
        taken.bound = Select.values
          (.table query.pageTable (query.pageClauses compiler.dialect window)) := by
  obtain ⟨window, joins, read, opened, _, rfl, planned, written⟩ := Query.read_ok reads compiles
  obtain ⟨plan, alsoPlanned, _, legible⟩ := compile_ok compiles
  cases planned.symm.trans alsoPlanned
  refine ⟨window, _, opened, planned, page_in_text _ (query.aliasOf query.tableName)
    (query.outerClauses compiler.dialect compiler.rowCap joins) legible ?_ ?_⟩
  · rw [written, Compiler.write_eq]
    rfl
  · rw [written, Compiler.write_bindings]
    rfl

/-- Joins cannot change the page. Two reads that ask for the same page have one select as
their derived table, whatever they join, ask for and filter besides: the same text stands
in the parentheses, and the values for the placeholders in it are the same and are at the
head of the bindings. -/
theorem joins_cannot_change_page {compiler : Compiler} {query other : Query}
    {compiled alsoCompiled : Compiled} (reads : query.operation = .read)
    (alsoReads : other.operation = .read) (compiles : compiler.compile query = .ok compiled)
    (alsoCompiles : compiler.compile other = .ok alsoCompiled) (same : query.AsksSamePage other) :
    ∃ page label outer alsoOuter,
      query.plan compiler.dialect compiler.rowCap compiler.returning =
        .ok (.select (.derived page label outer)) ∧
      other.plan compiler.dialect compiler.rowCap compiler.returning =
        .ok (.select (.derived page label alsoOuter)) ∧
      ∃ (here : PageIn compiler.dialect compiled) (there : PageIn compiler.dialect alsoCompiled),
        here.page = writeFrom compiler.dialect 1 (page.sql compiler.dialect) ∧
        there.page = here.page ∧ here.bound = page.values ∧ there.bound = here.bound := by
  obtain ⟨window, outer, opened, planned, here, page, bound⟩ := read_has_page reads compiles
  obtain ⟨_, alsoOuter, alsoOpened, alsoPlanned, there, alsoPage, alsoBound⟩ :=
    read_has_page alsoReads alsoCompiles
  have sameWindow := alsoOpened
  rw [← same.paging, opened] at sameWindow
  cases sameWindow
  rw [← same.pageTable, ← same.pageClauses] at alsoPlanned alsoPage alsoBound
  rw [← same.tableName, ← same.aliasOf] at alsoPlanned
  exact ⟨_, _, outer, alsoOuter, planned, alsoPlanned, here, there, page, alsoPage.trans page.symm,
    bound, alsoBound.trans bound.symm⟩

/-- The orders of a day, twenty to a page. -/
def ordersOfDay : Query :=
  { Query.plain "orders" .read with
    aliases := .ofList [("orders", "o"), ("customers", "c")]
    paging := some ⟨some 2, some 20⟩
    sort := some [("placed", .descending)]
    filters := some ⟨false, [⟨"state", .oneOf [.string "new", .string "paid"]⟩,
      ⟨"day", .equal (.string "monday")⟩]⟩ }

/-- The same page with customers and lines, asked for by filters that stand in front of
those on the orders, between them and behind them. -/
def ordersOfDayJoined : Query :=
  { ordersOfDay with
    endpoint := ⟨"archive", "orders", .read, none⟩
    fields := some ["id", "customers.name"]
    relationships := [.direct "customers" "customer_id" "id", .direct "lines" "id" "order_id"]
    filters := some ⟨false, [⟨"customers.city", .equal (.string "Graz")⟩,
      ⟨"state", .oneOf [.string "new", .string "paid"]⟩, ⟨"lines.item", .string (.string "a")⟩,
      ⟨"day", .equal (.string "monday")⟩, ⟨"lines.code", .range (some (.string "m")) none⟩]⟩ }

theorem orders_of_day_same_page :
    ∃ compiled alsoCompiled,
      (Compiler.of .postgres 50).compile ordersOfDay = .ok compiled ∧
      (Compiler.of .postgres 50).compile ordersOfDayJoined = .ok alsoCompiled ∧
      compiled.bindings.length = 3 ∧ alsoCompiled.bindings.length = 6 ∧
      ∃ (here : PageIn .postgres compiled) (there : PageIn .postgres alsoCompiled),
        there.page = here.page ∧ there.bound = here.bound := by
  have compiles : (Compiler.of .postgres 50).compile ordersOfDay = .ok _ := rfl
  have alsoCompiles : (Compiler.of .postgres 50).compile ordersOfDayJoined = .ok _ := rfl
  have same : ordersOfDay.AsksSamePage ordersOfDayJoined :=
    ⟨rfl, rfl, rfl, rfl, rfl, rfl, rfl, by decide +kernel⟩
  obtain ⟨_, _, _, _, _, _, here, there, _, page, _, bound⟩ :=
    joins_cannot_change_page rfl rfl compiles alsoCompiles same
  exact ⟨_, _, compiles, alsoCompiles, rfl, rfl, here, there, page, bound⟩

end Polyquery
