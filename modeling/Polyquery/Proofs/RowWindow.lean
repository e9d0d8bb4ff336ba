import Polyquery.Proofs.Injection
import Polyquery.Proofs.SelectPhrases

/-! The row window in the text of a read. How many rows are skipped and how many are
taken is said differently in every dialect: behind `SELECT` or at the end, in one
phrase or in two, with an order put in where the dialect asks for one. Read by the
grammar of the dialect, each of these says the same window. -/
namespace Polyquery
open Sql

/-! ## Reading windows -/

/-- The words of phrases that can say something about the row window. -/
def Sql.Word.limitsRows : Word → Bool
  | .select | .top | .limit | .offset | .fetch => true
  | _ => false

/-- The row limit and the offset that a query states by the grammar of the dialect;
nothing if they are stated in any other way, or more than once. -/
def Dialect.window? (dialect : Dialect) (phrases : List Phrase) : Option (Option Nat × Option Nat) :=
  match dialect, phrases.filter (·.word.limitsRows) with
  | _, [⟨.select, _⟩] => some (none, none)
  | .postgres, [⟨.select, _⟩, ⟨.limit, [.number n]⟩]
  | .mysql, [⟨.select, _⟩, ⟨.limit, [.number n]⟩]
  | .mariadb, [⟨.select, _⟩, ⟨.limit, [.number n]⟩]
  | .sqlServer, [⟨.select, []⟩, ⟨.top, .mark .open :: .number n :: .mark .close :: _⟩]
  | .oracle, [⟨.select, _⟩, ⟨.fetch, [.word .next, .number n, .word .rows, .word .only]⟩] =>
    some (some n, none)
  | .postgres, [⟨.select, _⟩, ⟨.limit, [.number n]⟩, ⟨.offset, [.number m]⟩]
  | .mysql, [⟨.select, _⟩, ⟨.limit, [.number n]⟩, ⟨.offset, [.number m]⟩]
  | .mariadb, [⟨.select, _⟩, ⟨.limit, [.number n]⟩, ⟨.offset, [.number m]⟩]
  | .sqlServer, [⟨.select, _⟩, ⟨.offset, [.number m, .word .rows]⟩,
      ⟨.fetch, [.word .next, .number n, .word .rows, .word .only]⟩]
  | .oracle, [⟨.select, _⟩, ⟨.offset, [.number m, .word .rows]⟩,
      ⟨.fetch, [.word .next, .number n, .word .rows, .word .only]⟩] =>
    some (some n, some m)
  | _, _ => none

namespace Sql

variable {dialect : Dialect}

/-- Phrases of other words say nothing about the row window. -/
theorem silent_pieces {pieces : Pieces} (silent : ∀ piece ∈ pieces, piece.1.limitsRows = false)
    (index : Nat) : (pieces.phrasesFrom dialect index).filter (·.word.limitsRows) = [] := by
  refine List.filter_eq_nil_iff.2 fun phrase member => ?_
  have word : phrase.word ∈ (pieces.phrasesFrom dialect index).map Phrase.word :=
    List.mem_map_of_mem member
  rw [words_of_pieces] at word
  obtain ⟨piece, inside, same⟩ := List.mem_map.1 word
  rw [← same, silent piece inside]
  exact Bool.false_ne_true

/-- Between the front of a select and its row limit nothing is said about the window. -/
theorem filter_clauses (dialect : Dialect) (clauses : Clauses) (source : Sql) (index : Nat) :
    ∃ behind, ((clauses.pieces dialect source).phrasesFrom dialect index).filter (·.word.limitsRows) =
      (frontPieces dialect clauses.limit clauses.offset clauses.projection.sql).phrasesFrom dialect index ++
        ((limitPieces dialect clauses.limit clauses.offset (!clauses.order.isEmpty)).phrasesFrom
          dialect behind).filter (·.word.limitsRows) := by
  have front : ((frontPieces dialect clauses.limit clauses.offset clauses.projection.sql).phrasesFrom
      dialect index).filter (·.word.limitsRows) =
        (frontPieces dialect clauses.limit clauses.offset clauses.projection.sql).phrasesFrom
          dialect index := by
    unfold frontPieces
    split <;> rfl
  have between (index : Nat) : (Pieces.phrasesFrom dialect index ((.from, .space :: source) ::
      clauses.joins.map (joinPiece dialect))).filter (·.word.limitsRows) = [] := by
    refine silent_pieces (List.forall_mem_cons.2 ⟨rfl, fun piece member => ?_⟩) index
    obtain ⟨join, _, rfl⟩ := List.mem_map.1 member
    rfl
  have condition (index : Nat) : ((conditionPieces dialect clauses.condition).phrasesFrom
      dialect index).filter (·.word.limitsRows) = [] := by
    unfold conditionPieces
    split <;> rfl
  have order (index : Nat) : ((orderPieces clauses.order).phrasesFrom dialect index).filter
      (·.word.limitsRows) = [] := by
    unfold orderPieces
    split <;> rfl
  simp only [Clauses.pieces, phrasesFrom_append, List.filter_append, front, between, condition, order,
    List.append_nil]
  exact ⟨_, rfl⟩

/-- The window of a select is read back from its phrases. -/
theorem window?_of_clauses {clauses : Clauses}
    (limited : clauses.offset.isSome = true → clauses.limit.isSome = true) (source : Sql) (index : Nat) :
    dialect.window? ((clauses.pieces dialect source).phrasesFrom dialect index) =
      some (clauses.limit, clauses.offset) := by
  obtain ⟨behind, filtered⟩ := filter_clauses dialect clauses source index
  unfold Dialect.window?
  rw [filtered]
  cases limit : clauses.limit with
  | none =>
    cases offset : clauses.offset with
    | none => cases dialect <;> rfl
    | some m =>
      rw [limit, offset] at limited
      exact absurd (limited rfl) Bool.false_ne_true
  | some n =>
    cases clauses.offset with
    | none => cases dialect <;> rfl
    | some m => cases dialect <;> cases clauses.order.isEmpty <;> rfl

/-! ## SQL Server -/

theorem mem_words (dialect : Dialect) (clauses : Clauses) (w : Word) :
    w ∈ clauses.words dialect ↔
      w ∈ frontWords dialect clauses.limit.isSome clauses.offset.isSome ∨ w = .from ∨
        (clauses.joins.length ≠ 0 ∧ w = .left) ∨
        w ∈ wordsBehind dialect (!clauses.condition.isEmpty) (!clauses.order.isEmpty)
          clauses.limit.isSome clauses.offset.isSome := by
  simp only [Clauses.words, List.mem_append, List.mem_cons, List.mem_replicate, or_assoc]

/-- SQL Server has an offset only behind an order. -/
theorem order_of_offset (clauses : Clauses) (skips : Word.offset ∈ clauses.words .sqlServer) :
    Word.order ∈ clauses.words .sqlServer := by
  simp only [mem_words, frontWords, wordsBehind, limitWords] at skips ⊢
  revert skips
  cases clauses.condition.isEmpty <;> cases clauses.order.isEmpty <;> cases clauses.limit.isSome <;>
    cases clauses.offset.isSome <;> simp [Word.onlyIf]

/-- A limited query of SQL Server has its row limit in front or an offset, so it may be
ordered also as a derived table. -/
theorem top_or_offset {clauses : Clauses} (limited : clauses.limit.isSome = true) :
    Word.top ∈ clauses.words .sqlServer ∨ Word.offset ∈ clauses.words .sqlServer := by
  simp only [mem_words, frontWords, wordsBehind, limitWords, limited]
  cases clauses.offset.isSome <;> simp [Word.onlyIf]

end Sql

/-! ## Reads -/

/-- The phrases are those of clauses: they state their window, with their words. -/
structure Sql.Clauses.ReadAs (dialect : Dialect) (clauses : Clauses) (phrases : List Phrase) :
    Prop where
  window : (clauses.offset.isSome = true → clauses.limit.isSome = true) →
    dialect.window? phrases = some (clauses.limit, clauses.offset)
  words : phrases.map Phrase.word = clauses.words dialect

/-- A select over a derived table is read as two queries, one inside of the other. -/
theorem derived_read (dialect : Dialect) (page : Select) (label : String) (clauses : Clauses)
    (index : Nat) :
    ∃ outer derived inner,
      phrases? (lexemesFrom dialect index (Select.sql dialect (.derived page label clauses))) = some outer ∧
      derived? outer = some derived ∧ phrases? derived = some inner ∧
      clauses.ReadAs dialect outer ∧ page.clauses.ReadAs dialect inner := by
  have readAs (clauses : Clauses) (source : Sql) (index : Nat) :
      clauses.ReadAs dialect ((clauses.pieces dialect source).phrasesFrom dialect index) :=
    ⟨fun limited => window?_of_clauses limited source index,
      (words_of_pieces _ index).trans (words_of_clauses clauses source)⟩
  exact ⟨_, _, _, phrases?_of_select _ index, derived?_of_select page label clauses index,
    phrases?_of_select page index, readAs clauses _ index, readAs page.clauses _ index⟩

/-- What is written into the text of a read about its rows is read back by the grammar
of the dialect, once: in the derived table the window of the page that the query asks
for, and around it the row cap if tables are joined and no limit if none are. On SQL
Server there is no offset without an order, and no order in the derived table without
a row limit in front or an offset. -/
theorem read_window_survives {compiler : Compiler} {query : Query} {compiled : Compiled}
    (reads : query.operation = .read) (compiles : compiler.compile query = .ok compiled) :
    ∃ window lexemes outer derived inner,
      Window.ofPaging query.paging compiler.rowCap = .ok window ∧
      scan compiler.dialect compiled.text.toList = some lexemes ∧
      phrases? lexemes = some outer ∧ derived? outer = some derived ∧ phrases? derived = some inner ∧
      compiler.dialect.window? inner = some (some window.limit, window.offset) ∧
      compiler.dialect.window? outer =
        some (if query.relationships = [] then none else some compiler.rowCap, none) ∧
      (compiler.dialect = .sqlServer →
        (∀ phrases ∈ [outer, inner], .offset ∈ phrases.map Phrase.word →
          .order ∈ phrases.map Phrase.word) ∧
        (.order ∈ inner.map Phrase.word →
          .top ∈ inner.map Phrase.word ∨ .offset ∈ inner.map Phrase.word)) := by
  obtain ⟨window, joins, read, opened, _, rfl, planned, written⟩ := Query.read_ok reads compiles
  obtain ⟨plan, alsoPlanned, _, legible⟩ := compile_ok compiles
  cases planned.symm.trans alsoPlanned
  have scanned := scan_write .read legible
  rw [← written] at scanned
  have around : (query.outerClauses compiler.dialect compiler.rowCap joins).limit =
      if query.relationships = [] then none else some compiler.rowCap := by
    simp [Query.outerClauses]
  obtain ⟨outer, derived, inner, outerRead, found, innerRead, ofOuter, ofPage⟩ := derived_read
    compiler.dialect (.table query.pageTable (query.pageClauses compiler.dialect window))
    (query.aliasOf query.tableName) (query.outerClauses compiler.dialect compiler.rowCap joins) 1
  refine ⟨window, _, outer, derived, inner, opened, scanned, outerRead, found, innerRead, ?_, ?_, ?_⟩
  · exact ofPage.window fun _ => rfl
  · rw [← around]
    exact ofOuter.window fun skips => absurd skips Bool.false_ne_true
  · intro server
    rw [server] at ofOuter ofPage
    refine ⟨fun phrases listed skips => ?_, fun _ => ?_⟩
    · simp only [List.mem_cons, List.not_mem_nil, or_false] at listed
      rcases listed with rfl | rfl
      · rw [ofOuter.words] at skips ⊢
        exact order_of_offset _ skips
      · rw [ofPage.words] at skips ⊢
        exact order_of_offset _ skips
    · rw [ofPage.words]
      exact top_or_offset rfl

/-- The third page of orders, twenty to a page, with their customers. -/
def thirdPageOfOrders : Query :=
  { Query.plain "orders" .read with
    paging := some ⟨some 3, some 20⟩
    relationships := [.direct "customers" "customer_id" "id"] }

theorem third_page_read_back :
    thirdPageOfOrders.operation = .read ∧
      ∃ compiled, (Compiler.of .sqlServer 5000).compile thirdPageOfOrders = .ok compiled ∧
        ∃ lexemes outer derived inner, scan .sqlServer compiled.text.toList = some lexemes ∧
          phrases? lexemes = some outer ∧ derived? outer = some derived ∧ phrases? derived = some inner ∧
          Dialect.sqlServer.window? inner = some (some 20, some 40) ∧
          Dialect.sqlServer.window? outer = some (some 5000, none) ∧
          (Word.offset ∈ inner.map Phrase.word → Word.order ∈ inner.map Phrase.word) := by
  have compiles : (Compiler.of .sqlServer 5000).compile thirdPageOfOrders = .ok _ := rfl
  obtain ⟨window, lexemes, outer, derived, inner, opened, scanned, outerRead, found, innerRead, page,
    around, server⟩ := read_window_survives rfl compiles
  cases opened
  exact ⟨rfl, _, compiles, lexemes, outer, derived, inner, scanned, outerRead, found, innerRead, page,
    around, (server rfl).1 inner (by simp)⟩

end Polyquery
