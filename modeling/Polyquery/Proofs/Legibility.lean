import Polyquery.Proofs.Predicates
import Polyquery.Proofs.Reading

/-! Everything that is written as SQL is legible: between two words, numbers,
names or placeholders there is always a blank or a mark. Each clause is treated
once, as a text that begins with an atom or as one that may follow an atom. -/
namespace Polyquery
open Sql

namespace Sql

variable {dialect : Dialect} {numbers : List Nat} {behindAtom : Bool} {a b : Sql}

@[simp] theorem legible_nil : Legible dialect numbers behindAtom [] := trivial

@[simp] theorem legible_space :
    Legible dialect numbers behindAtom (.space :: a) ↔ Legible dialect numbers false a := by
  simp [Legible, Token.Admissible, Token.isAtom]

@[simp] theorem legible_mark {m : Mark} :
    Legible dialect numbers behindAtom (.mark m :: a) ↔
      (Token.mark m).Admissible dialect numbers ∧ Legible dialect numbers false a := by
  simp [Legible, Token.isAtom]

@[simp] theorem legible_word {w : Word} :
    Legible dialect numbers behindAtom (.word w :: a) ↔
      behindAtom = false ∧ Legible dialect numbers true a := by
  simp [Legible, Token.Admissible, Token.isAtom]

@[simp] theorem legible_name {s : String} :
    Legible dialect numbers behindAtom (.name s :: a) ↔
      behindAtom = false ∧ Legible dialect numbers true a := by
  simp [Legible, Token.Admissible, Token.isAtom]

@[simp] theorem legible_bound {v : Value} :
    Legible dialect numbers behindAtom (.bound v :: a) ↔
      behindAtom = false ∧ Legible dialect numbers true a := by
  simp [Legible, Token.Admissible, Token.isAtom]

@[simp] theorem legible_number {n : Nat} :
    Legible dialect numbers behindAtom (.number n :: a) ↔
      n ∈ numbers ∧ behindAtom = false ∧ Legible dialect numbers true a := by
  simp [Legible, Token.Admissible, Token.isAtom]

@[simp] theorem admissible_mark {m : Mark} :
    (Token.mark m).Admissible dialect numbers ↔
      (m = .openBracket ∨ m = .closeBracket → dialect ≠ .sqlServer) := by
  cases m <;> simp [Token.Admissible]

/-- What may follow an atom may stand anywhere. -/
theorem Legible.anywhere (legible : Legible dialect numbers true a) :
    Legible dialect numbers behindAtom a := by
  cases a with
  | nil => trivial
  | cons token rest =>
    obtain ⟨admissible, separate, following⟩ := legible
    exact ⟨admissible, fun atom => absurd (separate atom) (by simp), following⟩

theorem Legible.append (first : Legible dialect numbers behindAtom a)
    (second : Legible dialect numbers true b) : Legible dialect numbers behindAtom (a ++ b) := by
  induction a generalizing behindAtom with
  | nil => exact second.anywhere
  | cons token rest ih =>
    obtain ⟨admissible, separate, following⟩ := first
    exact ⟨admissible, separate, ih following⟩

/-- Parts with a separator between them are legible if the separator keeps its
neighbours apart. -/
theorem legible_intersperse {separator : Sql} {parts : List Sql}
    (separates : ∀ part, Legible dialect numbers false part →
      Legible dialect numbers true (separator ++ part))
    (legible : ∀ part ∈ parts, Legible dialect numbers false part) :
    Legible dialect numbers false (Text.intersperse separator parts) := by
  induction parts with
  | nil => trivial
  | cons first others ih =>
    have firstLegible := legible first (by simp)
    have othersLegible := ih fun part member => legible part (by simp [member])
    cases others with
    | nil => exact firstLegible
    | cons second more =>
      rw [Text.intersperse, List.append_assoc]
      · exact firstLegible.append (separates _ othersLegible)
      · simp

theorem legible_commas {parts : List Sql}
    (legible : ∀ part ∈ parts, Legible dialect numbers false part) :
    Legible dialect numbers false (commas parts) :=
  legible_intersperse (fun part partLegible => by simpa using partLegible) legible

theorem legible_words (list : List Word) : Legible dialect numbers false (words list) := by
  refine legible_intersperse (fun part partLegible => by simpa using partLegible) fun part member => ?_
  obtain ⟨w, _, rfl⟩ := List.mem_map.1 member
  simp

theorem legible_join (op : Connective) {parts : List Sql}
    (legible : ∀ part ∈ parts, Legible dialect numbers false part) :
    Legible dialect numbers false (op.join parts) :=
  legible_intersperse (fun part partLegible => by simpa using partLegible) legible

theorem legible_parenthesized (inner : Legible dialect numbers false a) :
    Legible dialect numbers behindAtom (parenthesized a) := by
  have closed : Legible dialect numbers false (a ++ [.mark .close]) := inner.append (by simp)
  simpa [parenthesized] using closed

/-! ## Names and columns -/

theorem legible_path (name : String) : Legible dialect numbers false (path name) := by
  refine legible_intersperse (fun part partLegible => by simpa using partLegible) fun part member => ?_
  obtain ⟨segment, _, rfl⟩ := List.mem_map.1 member
  simp

theorem legible_column (ref : ColumnRef) : Legible dialect numbers false ref.sql := by
  obtain ⟨table, column⟩ := ref
  cases table with
  | none => exact legible_path column
  | some table => exact (legible_path table).append (by simpa using legible_path column)

theorem legible_aliased (target : Legible dialect numbers false a)
    (name : Legible dialect numbers false b) :
    Legible dialect numbers false (dialect.aliased a b) := by
  cases dialect <;> exact target.append (by simpa using name)

theorem legible_table (table : TableRef) : Legible dialect numbers false (table.sql dialect) := by
  obtain ⟨name, schema, label⟩ := table
  cases schema <;> cases label <;>
    simp [TableRef.sql, legible_aliased]

/-! ## Conditions -/

theorem legible_boundList (values : List Value) :
    Legible dialect numbers false (boundList values) := by
  refine legible_commas fun part member => ?_
  obtain ⟨v, _, rfl⟩ := List.mem_map.1 member
  simp

theorem legible_matching (column : Legible dialect numbers false a)
    (pattern : Legible dialect numbers false b) :
    Legible dialect numbers false (dialect.matching a b) := by
  unfold Dialect.matching
  split
  · exact column.append (by simpa using pattern)
  · have lowered : Legible dialect numbers false (.word .lower :: parenthesized a) := by
      have inParentheses : Legible dialect numbers true (parenthesized a) :=
        legible_parenthesized column
      simpa using inParentheses
    exact lowered.append (by simpa using pattern)

/-- A leaf that the dialect can write: where brackets quote names, arrays cannot
be written. -/
def Predicate.Fits (dialect : Dialect) : Predicate → Prop
  | .hasAny _ _ => dialect ≠ .sqlServer
  | _ => True

/-- All leaves of the condition can be written. -/
def Condition.Fits (dialect : Dialect) (condition : Condition) : Prop :=
  ∀ leaf ∈ condition.leaves, leaf.Fits dialect

theorem legible_leaf (zero : 0 ∈ numbers) (one : 1 ∈ numbers) {p : Predicate}
    (leaf : p.isLeaf = true) (fits : p.Fits dialect) :
    Legible dialect numbers false (p.sql dialect) := by
  cases p with
  | group | not => cases leaf
  | oneOf column values =>
    cases values with
    | nil => simp [Predicate.sql, zero, one]
    | cons first rest =>
      exact (legible_column column).append
        (by simpa using legible_parenthesized (legible_boundList (first :: rest)))
  | compare column op value =>
    exact (legible_column column).append (by cases op <;> simp [Comparison.mark])
  | between column low high => exact (legible_column column).append (by simp)
  | isNull column negated => exact (legible_column column).append (by simpa using legible_words _)
  | like column pattern => exact legible_matching (legible_column column) (by simp)
  | containsJson column document => exact (legible_column column).append (by simp)
  | hasAny column values =>
    have bracketed : dialect ≠ .sqlServer := fits
    have closed : Legible dialect numbers false (boundList values ++ [.mark .closeBracket]) :=
      (legible_boundList values).append (by simp [bracketed])
    have opened : Legible dialect numbers true ([.mark .cast, .word .jsonb, .space, .mark .hasAny,
        .space, .word .array, .mark .openBracket] ++ (boundList values ++ [.mark .closeBracket])) := by
      simpa [bracketed] using closed
    simpa [Predicate.sql] using (legible_column column).append opened
  | jsonFunction column function document =>
    have arguments : Legible dialect numbers false (commas [column.sql, [.bound document]]) :=
      legible_commas fun part member => by
        simp only [List.mem_cons, List.not_mem_nil, or_false] at member
        rcases member with rfl | rfl
        · exact legible_column column
        · simp
    have inParentheses : Legible dialect numbers true
        (parenthesized (commas [column.sql, [.bound document]])) := legible_parenthesized arguments
    simpa [Predicate.sql] using inParentheses

theorem legible_predicate (zero : 0 ∈ numbers) (one : 1 ∈ numbers) (p : Predicate)
    (fits : ∀ leaf ∈ p.leaves, leaf.Fits dialect) :
    Legible dialect numbers false (p.sql dialect) := by
  induction p using Predicate.induction with
  | leaf p leaf => exact legible_leaf zero one leaf (fits p (by simp [leaves_leaf leaf]))
  | group op parts ih =>
    have partsLegible : ∀ part ∈ parts, Legible dialect numbers false (part.sql dialect) :=
      fun part member => ih part member fun leaf inside =>
        fits leaf (by simpa using ⟨part, member, inside⟩)
    by_cases single : parts.length = 1
    · obtain ⟨only, rfl⟩ := List.length_eq_one_iff.1 single
      rw [sql_group_one]
      exact partsLegible only (by simp)
    · rw [sql_group_several dialect op single]
      refine legible_parenthesized (legible_join op fun part member => ?_)
      obtain ⟨predicate, inside, rfl⟩ := List.mem_map.1 member
      exact partsLegible predicate inside
  | not inner ih =>
    have innerLegible := ih (by simpa using fits)
    rw [sql_not]
    split
    · simpa using innerLegible
    · simpa using legible_parenthesized innerLegible

theorem legible_clause (zero : 0 ∈ numbers) (one : 1 ∈ numbers) {condition : Condition}
    (fits : condition.Fits dialect) :
    Legible dialect numbers behindAtom (condition.clause dialect) := by
  unfold Condition.clause
  split
  · trivial
  · have written : Legible dialect numbers false (condition.sql dialect) := by
      rw [condition_sql]
      refine legible_join _ fun part member => ?_
      obtain ⟨predicate, inside, rfl⟩ := List.mem_map.1 member
      exact legible_predicate zero one predicate fun leaf deeper =>
        fits leaf (List.mem_flatMap.2 ⟨predicate, inside, deeper⟩)
    simpa using written

/-! ## Selects -/

theorem legible_joined (join : Join) : Legible dialect numbers false (join.sql dialect) := by
  unfold Join.sql
  refine ((legible_words _).append ?_).append ?_
  · simpa using legible_table join.table
  · simp only [legible_space, legible_word, true_and]
    refine legible_join _ fun part member => ?_
    obtain ⟨⟨left, right⟩, _, rfl⟩ := List.mem_map.1 member
    exact (legible_column left).append (by simpa using legible_column right)

theorem legible_output (output : Output) : Legible dialect numbers false output.sql := by
  unfold Output.sql
  split
  · exact ((legible_column output.column).append (by simp)).append (by simp)
  · exact ((legible_column output.column).append (by simp)).append (by simp)

theorem legible_projection (projection : Projection) :
    Legible dialect numbers false projection.sql := by
  cases projection with
  | all => simp [Projection.sql]
  | columns outputs =>
    refine legible_commas fun part member => ?_
    obtain ⟨output, _, rfl⟩ := List.mem_map.1 member
    exact legible_output output

theorem legible_order (order : List SortKey) :
    Legible dialect numbers behindAtom (orderSql order) := by
  unfold orderSql
  split
  · trivial
  · refine Legible.append (by simpa using legible_words [.order, .by]) ?_
    rw [legible_space]
    refine legible_commas fun part member => ?_
    obtain ⟨key, _, rfl⟩ := List.mem_map.1 member
    exact (legible_column key.column).append (by simp)

/-- The numbers of a limit or an offset are of the given ones. -/
def Within (numbers : List Nat) (count : Option Nat) : Prop := ∀ n ∈ count, n ∈ numbers

theorem legible_limitInFront {limit offset : Option Nat} (limited : Within numbers limit)
    (following : Legible dialect numbers false a) :
    Legible dialect numbers false (dialect.limitInFront limit offset ++ a) := by
  unfold Dialect.limitInFront
  split
  · rename_i n
    have counted : n ∈ numbers := limited n rfl
    simp [parenthesized, counted, following]
  · exact following

theorem legible_skipRows {offset : Option Nat} (skipped : Within numbers offset) :
    Legible dialect numbers behindAtom (Dialect.skipRows offset) := by
  cases offset with
  | none => trivial
  | some n =>
    have counted : n ∈ numbers := skipped n rfl
    simp [Dialect.skipRows, counted]

theorem legible_fetchRows {limit : Option Nat} (limited : Within numbers limit) :
    Legible dialect numbers behindAtom (Dialect.fetchRows limit) := by
  cases limit with
  | none => trivial
  | some n =>
    have counted : n ∈ numbers := limited n rfl
    refine Legible.append ?_ ?_
    · simpa using legible_words [.fetch, .next]
    · simpa [counted] using legible_words [.rows, .only]

theorem legible_limitBehind {limit offset : Option Nat} (ordered : Bool)
    (limited : Within numbers limit) (skipped : Within numbers offset) :
    Legible dialect numbers behindAtom (dialect.limitBehind limit offset ordered) := by
  cases dialect with
  | postgres | mysql | mariadb =>
    refine Legible.append ?_ ?_
    · cases limit with
      | none => trivial
      | some n => simp [limited n rfl]
    · cases offset with
      | none => trivial
      | some n => simp [skipped n rfl]
  | oracle => exact (legible_skipRows skipped).append (legible_fetchRows limited)
  | sqlServer =>
    cases offset with
    | none => trivial
    | some n =>
      refine (Legible.append ?_ (legible_skipRows skipped)).append (legible_fetchRows limited)
      cases ordered <;> simp [words, Text.intersperse, parenthesized]

/-- The clauses of a select can be written with these numbers. -/
structure Clauses.Fits (dialect : Dialect) (numbers : List Nat) (clauses : Clauses) : Prop where
  condition : clauses.condition.Fits dialect
  limit : Within numbers clauses.limit
  offset : Within numbers clauses.offset

theorem legible_clauses (zero : 0 ∈ numbers) (one : 1 ∈ numbers) {clauses : Clauses}
    (fits : clauses.Fits dialect numbers) {source : Sql}
    (sourceLegible : Legible dialect numbers false source) :
    Legible dialect numbers false (clauses.sql dialect source) := by
  have front : Legible dialect numbers false (.word .select :: .space ::
      dialect.limitInFront clauses.limit clauses.offset ++ clauses.projection.sql) := by
    simpa using legible_limitInFront fits.limit (legible_projection clauses.projection)
  have withSource := front.append (b := .space :: .word .from :: .space :: source)
    (by simpa using sourceLegible)
  have joins : Legible dialect numbers true
      (clauses.joins.flatMap fun join => .space :: join.sql dialect) := by
    induction clauses.joins with
    | nil => trivial
    | cons join rest ih =>
      rw [List.flatMap_cons]
      exact Legible.append (by simpa using legible_joined join) ih
  have withCondition := (withSource.append joins).append (legible_clause zero one fits.condition)
  exact (withCondition.append (legible_order _)).append
    (legible_limitBehind _ fits.limit fits.offset)

/-- Every select in the tree can be written with these numbers. -/
def Select.Fits (dialect : Dialect) (numbers : List Nat) : Select → Prop
  | .table _ clauses => clauses.Fits dialect numbers
  | .derived inner _ clauses => inner.Fits dialect numbers ∧ clauses.Fits dialect numbers

theorem legible_select (zero : 0 ∈ numbers) (one : 1 ∈ numbers) {select : Select}
    (fits : select.Fits dialect numbers) :
    Legible dialect numbers false (select.sql dialect) := by
  induction select with
  | table source clauses => exact legible_clauses zero one fits (legible_table source)
  | derived inner label clauses ih =>
    have derived : Legible dialect numbers false (parenthesized (inner.sql dialect)) :=
      legible_parenthesized (ih fits.1)
    exact legible_clauses zero one fits.2 (legible_aliased derived (by simp))

/-! ## Writes -/

theorem legible_returning (returning : Option Projection) :
    Legible dialect numbers behindAtom (returningSql returning) := by
  cases returning with
  | none => trivial
  | some projection => simpa [returningSql] using legible_projection projection

theorem legible_tuple (row : List (Option Value)) :
    Legible dialect numbers behindAtom (Insert.tupleSql dialect row) := by
  refine legible_parenthesized (legible_commas fun part member => ?_)
  obtain ⟨cell, _, rfl⟩ := List.mem_map.1 member
  cases cell with
  | some value => simp
  | none => cases dialect <;> simp [Dialect.missingCell]

theorem legible_insertion {target columns values : Sql}
    (targetLegible : Legible dialect numbers false target)
    (columnsLegible : Legible dialect numbers false columns)
    (valuesLegible : Legible dialect numbers false values) :
    Legible dialect numbers false (Dialect.insertion target columns values) := by
  refine Legible.append (Legible.append ?_ ?_) ?_
  · simpa using targetLegible
  · simpa using legible_parenthesized columnsLegible
  · simpa using valuesLegible

private theorem legible_insertions {target columns : Sql} {tuples : List Sql}
    (targetLegible : Legible dialect numbers false target)
    (columnsLegible : Legible dialect numbers false columns)
    (tuplesLegible : ∀ tuple ∈ tuples, Legible dialect numbers false tuple) :
    Legible dialect numbers true
      (tuples.flatMap fun tuple => .space :: Dialect.insertion target columns tuple) := by
  induction tuples with
  | nil => trivial
  | cons tuple rest ih =>
    have first := legible_insertion targetLegible columnsLegible (tuplesLegible tuple (by simp))
    have others := ih fun other member => tuplesLegible other (by simp [member])
    rw [List.flatMap_cons]
    exact Legible.append (by simpa using first) others

theorem legible_insertRows (one : 1 ∈ numbers) {target columns : Sql} {tuples : List Sql}
    (targetLegible : Legible dialect numbers false target)
    (columnsLegible : Legible dialect numbers false columns)
    (tuplesLegible : ∀ tuple ∈ tuples, Legible dialect numbers false tuple) :
    Legible dialect numbers false (dialect.insertRows target columns tuples) := by
  unfold Dialect.insertRows
  split
  · have insertions := legible_insertions targetLegible columnsLegible tuplesLegible
    refine ((legible_words _).append insertions).append ?_
    simpa [one] using legible_words [.from, .dual]
  · simpa using legible_insertion targetLegible columnsLegible (legible_commas tuplesLegible)

theorem legible_keySelection {selection : Sql} (selected : dialect.keySelection = some selection) :
    Legible dialect numbers false selection := by
  cases dialect <;> cases selected
  simp [words, Text.intersperse, parenthesized]

theorem legible_insert (one : 1 ∈ numbers) (insert : Insert) :
    Legible dialect numbers false (insert.sql dialect) := by
  have target : Legible dialect numbers false (insert.table.sql dialect) := legible_table _
  refine (Legible.append ?_ (legible_returning _)).append ?_
  · split
    · have defaults : Legible dialect numbers true dialect.defaultRow := by
        cases dialect <;> simp [Dialect.defaultRow, parenthesized, words, Text.intersperse]
      exact ((legible_words _).append (by simpa using target)).append defaults
    · refine legible_insertRows one target (legible_commas fun part member => ?_) fun tuple member => ?_
      · obtain ⟨column, _, rfl⟩ := List.mem_map.1 member
        simp
      · obtain ⟨row, _, rfl⟩ := List.mem_map.1 member
        exact legible_tuple row
  · split
    · next selected => simpa using legible_keySelection selected
    · trivial

theorem legible_update (zero : 0 ∈ numbers) (one : 1 ∈ numbers) {update : Update}
    (fits : update.condition.Fits dialect) :
    Legible dialect numbers false (update.sql dialect) := by
  unfold Update.sql
  refine Legible.append (Legible.append (Legible.append ?_ ?_) (legible_clause zero one fits))
    (legible_returning update.returning)
  · simpa using legible_table update.table
  · simp only [legible_space, legible_word, true_and]
    refine legible_commas fun part member => ?_
    obtain ⟨⟨column, value⟩, _, rfl⟩ := List.mem_map.1 member
    simp

theorem legible_delete (zero : 0 ∈ numbers) (one : 1 ∈ numbers) {delete : Delete}
    (fits : delete.condition.Fits dialect) :
    Legible dialect numbers false (delete.sql dialect) := by
  unfold Delete.sql
  refine Legible.append (Legible.append (Legible.append (legible_words _) ?_)
    (legible_clause zero one fits)) (legible_returning delete.returning)
  simpa using legible_table delete.table

/-- The statement can be written in the dialect, with these numbers. -/
def Statement.Fits (dialect : Dialect) (numbers : List Nat) : Statement → Prop
  | .select read => read.Fits dialect numbers
  | .insert _ => True
  | .update write => write.condition.Fits dialect
  | .delete write => write.condition.Fits dialect

/-- A statement that fits its dialect is legible. -/
theorem legible_statement (zero : 0 ∈ numbers) (one : 1 ∈ numbers) {statement : Statement}
    (fits : statement.Fits dialect numbers) :
    Legible dialect numbers false (statement.sql dialect) := by
  cases statement with
  | select read => exact legible_select zero one fits
  | insert write => exact legible_insert one write
  | update write => exact legible_update zero one fits
  | delete write => exact legible_delete zero one fits

end Sql
end Polyquery
