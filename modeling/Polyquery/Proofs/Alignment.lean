import Mathlib.Data.List.Basic
import Polyquery.Proofs.Injection

/-! Values and placeholders stay aligned. The values of a statement are gathered
from its parts, without its tokens: the inner select before the outer one, the
assignments before the condition, row by row and leaf by leaf. They are the
values behind the placeholders of the text, in the same order, so a driver that
binds by position puts every value where the statement has it. -/
namespace Polyquery
open Sql

namespace Sql

/-! ## The values of a statement -/

/-- The values of a select: those of the rows it selects from, then its own. -/
def Select.values : Select → List Value
  | .table _ clauses => clauses.condition.values
  | .derived inner _ clauses => inner.values ++ clauses.condition.values

/-- The values of an insert, row by row. Without columns nothing is inserted but
defaults. -/
def Insert.values (insert : Insert) : List Value :=
  if insert.columns.isEmpty then [] else insert.rows.flatMap fun row => row.filterMap id

/-- The values of an update: those that are set, then those of the condition. -/
def Update.values (update : Update) : List Value :=
  update.assignments.map Prod.snd ++ update.condition.values

def Delete.values (delete : Delete) : List Value := delete.condition.values

def Statement.values : Statement → List Value
  | .select read => read.values
  | .insert write => write.values
  | .update write => write.values
  | .delete write => write.values

/-! ## Text with holes -/

/-- A piece of text with holes in it for values. -/
inductive Piece where
  | text (written : List Char)
  | hole (value : Value)
  deriving DecidableEq

/-- The values in the holes, from left to right. -/
def holes (pieces : List Piece) : List Value :=
  pieces.filterMap fun
    | .hole value => some value
    | .text _ => none

/-- The text with placeholders in its holes, numbered from the given one on. -/
def fill (dialect : Dialect) : Nat → List Piece → List Char
  | _, [] => []
  | index, .text written :: rest => written ++ fill dialect index rest
  | index, .hole _ :: rest => dialect.placeholder index ++ fill dialect (index + 1) rest

/-- The piece of a token: a hole for a bound value, and text for all else. -/
def Token.piece (dialect : Dialect) : Token → Piece
  | .bound value => .hole value
  | .word w => .text w.text.toList
  | .mark m => .text m.text.toList
  | .space => .text [' ']
  | .number n => .text (Nat.toDigits 10 n)
  | .name s => .text (dialect.quoteName s)

/-- A statement in text, with its values in place. -/
def Statement.marked (dialect : Dialect) (statement : Statement) : List Piece :=
  (statement.sql dialect).map (Token.piece dialect)

/-! ## Reading placeholders back -/

/-- The placeholder that a lexeme is. -/
def Lexeme.placeholder? : Lexeme → Option (Option Nat)
  | .placeholder written => some written
  | _ => none

/-- Lexemes with values for the placeholders, one by one from left to right;
nothing if there are too few values or too many. -/
def putBack : List Lexeme → List Value → Option (List Token)
  | [], [] => some []
  | [], _ :: _ => none
  | .placeholder _ :: _, [] => none
  | .placeholder _ :: rest, value :: values => (putBack rest values).map (.bound value :: ·)
  | .word w :: rest, values => (putBack rest values).map (.word w :: ·)
  | .mark m :: rest, values => (putBack rest values).map (.mark m :: ·)
  | .number n :: rest, values => (putBack rest values).map (.number n :: ·)
  | .name s :: rest, values => (putBack rest values).map (.name s :: ·)

variable {dialect : Dialect}

/-! ## The values in the tokens -/

@[simp] theorem bindings_boundList (values : List Value) : bindings (boundList values) = values := by
  simp [boundList, List.flatMap_map]

@[simp] theorem bindings_matching (a b : Sql) :
    bindings (dialect.matching a b) = bindings a ++ bindings b := by
  unfold Dialect.matching
  split <;> simp [bindings_append]

theorem bindings_leaf {p : Predicate} (leaf : p.isLeaf = true) :
    bindings (p.sql dialect) = p.ownValues := by
  cases p with
  | group | not => cases leaf
  | oneOf column values =>
    cases values <;> simp [Predicate.sql, Predicate.ownValues, bindings_append]
  | isNull column negated =>
    cases negated <;> simp [Predicate.sql, Predicate.ownValues, bindings_append]
  | compare | between | like | containsJson | hasAny | jsonFunction =>
    simp [Predicate.sql, Predicate.ownValues, bindings_append]

/-- A tree binds the values of its leaves, from left to right. -/
theorem bindings_predicate (p : Predicate) : bindings (p.sql dialect) = p.values := by
  induction p using Predicate.induction with
  | leaf p leaf => simp [bindings_leaf leaf, Predicate.values, leaves_leaf leaf]
  | group op parts ih =>
    have gathered : (parts.map (·.sql dialect)).flatMap bindings =
        (Predicate.group op parts).values := by
      simp only [List.flatMap_map, Predicate.values, leaves_group, List.flatMap_assoc]
      exact List.flatMap_congr ih
    by_cases single : parts.length = 1
    · obtain ⟨only, rfl⟩ := List.length_eq_one_iff.1 single
      rw [sql_group_one, ← gathered]
      simp
    · rw [sql_group_several dialect op single, bindings_parenthesized, bindings_join, gathered]
  | not inner ih =>
    have same : (Predicate.not inner).values = inner.values := by simp [Predicate.values]
    rw [sql_not, same, ← ih]
    split <;> simp

@[simp] theorem bindings_clause (condition : Condition) :
    bindings (condition.clause dialect) = condition.values := by
  have gathered : bindings (condition.sql dialect) = condition.values := by
    rw [condition_sql, bindings_join, Condition.values, Condition.leaves, List.flatMap_map,
      List.flatMap_assoc]
    exact List.flatMap_congr fun part _ => bindings_predicate part
  unfold Condition.clause
  split
  · next vacuous =>
    have none : condition.parts = [] := List.isEmpty_iff.1 vacuous
    simp [Condition.values, Condition.leaves, none]
  · simpa using gathered

theorem bindings_clauses (clauses : Clauses) (source : Sql) :
    bindings (clauses.sql dialect source) = bindings source ++ clauses.condition.values := by
  have joins : bindings (clauses.joins.flatMap fun join => .space :: join.sql dialect) = [] := by
    simp [bindings_flatMap]
  simp [Clauses.sql, bindings_append, joins]

theorem bindings_select (select : Select) : bindings (select.sql dialect) = select.values := by
  induction select with
  | table source clauses => simp [Select.sql, Select.values, bindings_clauses]
  | derived inner label clauses ih => simp [Select.sql, Select.values, bindings_clauses, ih]

theorem bindings_tuple (row : List (Option Value)) :
    bindings (Insert.tupleSql dialect row) = row.filterMap id := by
  induction row with
  | nil => rfl
  | cons cell rest ih =>
    simp only [Insert.tupleSql, bindings_parenthesized, bindings_commas] at ih ⊢
    rw [List.map_cons, List.flatMap_cons, ih]
    cases cell with
    | some value => simp
    | none => simp

theorem bindings_insert (insert : Insert) : bindings (insert.sql dialect) = insert.values := by
  have body : bindings (if insert.columns.isEmpty then
        words [.insert, .into] ++ .space :: insert.table.sql dialect ++ dialect.defaultRow
      else dialect.insertRows (insert.table.sql dialect)
        (commas (insert.columns.map fun column => [.name column]))
        (insert.rows.map (Insert.tupleSql dialect))) = insert.values := by
    unfold Insert.values
    split
    · simp [bindings_append]
    · rw [bindings_insertRows (by simp) (by simp [List.flatMap_map])]
      simp [List.flatMap_map, bindings_tuple]
  unfold Insert.sql
  simp only [bindings_append, body, bindings_returning, List.append_nil]
  split
  · next selected =>
    have silent : bindings _ = [] := bindings_keySelection selected
    simp [silent]
  · simp

theorem bindings_update (update : Update) : bindings (update.sql dialect) = update.values := by
  have assigned : update.assignments.flatMap (fun assignment => [assignment.2]) =
      update.assignments.map Prod.snd := by rw [List.map_eq_flatMap]
  simp [Update.sql, Update.values, bindings_append, List.flatMap_map, assigned]

theorem bindings_delete (delete : Delete) : bindings (delete.sql dialect) = delete.values := by
  simp [Delete.sql, Delete.values, bindings_append]

/-- The values behind the placeholders are the values of the statement. -/
theorem bindings_statement (statement : Statement) :
    bindings (statement.sql dialect) = statement.values := by
  cases statement with
  | select read => exact bindings_select read
  | insert write => exact bindings_insert write
  | update write => exact bindings_update write
  | delete write => exact bindings_delete write

/-! ## The placeholders in the text -/

theorem holes_marked (sql : Sql) : holes (sql.map (Token.piece dialect)) = bindings sql := by
  induction sql with
  | nil => rfl
  | cons token rest ih =>
    unfold holes bindings at ih ⊢
    cases token <;> simp [Token.piece, ih]

/-- The text is the statement with its holes filled from left to right. -/
theorem fill_marked (index : Nat) (sql : Sql) :
    fill dialect index (sql.map (Token.piece dialect)) = writeFrom dialect index sql := by
  induction sql generalizing index with
  | nil => rfl
  | cons token rest ih =>
    rw [List.map_cons, writeFrom, ← ih]
    cases token <;> rfl

/-- The placeholders that a reader finds are numbered one by one. -/
theorem placeholders_numbered (index : Nat) (sql : Sql) :
    (lexemesFrom dialect index sql).filterMap Lexeme.placeholder? =
      (List.range' index (bindings sql).length).map dialect.placeholderNumber := by
  induction sql generalizing index with
  | nil => rfl
  | cons token rest ih =>
    rw [lexemesFrom, List.filterMap_append, ih]
    cases token <;> simp [Token.lexeme?, Token.uses, Lexeme.placeholder?, List.range'_succ]

/-- With the values put back, what a reader finds are the tokens. -/
theorem putBack_lexemes (index : Nat) (sql : Sql) :
    putBack (lexemesFrom dialect index sql) (bindings sql) = some (sql.filter (· ≠ .space)) := by
  induction sql generalizing index with
  | nil => rfl
  | cons token rest ih =>
    have following := ih (index + token.uses)
    cases token <;> simp [lexemesFrom, Token.lexeme?, putBack, following]

end Sql

/-- The values of a compiled statement are those of its plan, in the order of
its holes; its text has the placeholders one, two, three and so on in the holes;
and a reader of the text who puts the values in their place from left to right
has the tokens of the plan again. -/
theorem compiled_values_fill_their_holes {compiler : Compiler} {query : Query} {compiled : Compiled}
    (compiles : compiler.compile query = .ok compiled) :
    ∃ plan lexemes, query.plan compiler.dialect compiler.rowCap compiler.returning = .ok plan ∧
      holes (plan.marked compiler.dialect) = compiled.bindings ∧
      plan.values = compiled.bindings ∧
      compiled.text = String.ofList (fill compiler.dialect 1 (plan.marked compiler.dialect)) ∧
      scan compiler.dialect compiled.text.toList = some lexemes ∧
      lexemes.filterMap Lexeme.placeholder? =
        (List.range' 1 compiled.bindings.length).map compiler.dialect.placeholderNumber ∧
      putBack lexemes compiled.bindings =
        some ((plan.sql compiler.dialect).filter (· ≠ .space)) := by
  obtain ⟨plan, planned, rfl, legible⟩ := compile_ok compiles
  simp only [Compiler.write_bindings]
  refine ⟨plan, _, planned, holes_marked _, (bindings_statement plan).symm, ?_, scan_write _ legible,
    placeholders_numbered 1 _, putBack_lexemes 1 _⟩
  rw [Compiler.write_eq, Statement.marked, fill_marked]
  rfl

/-- A query whose first filter is the last one in the text. -/
def outerFilterFirst : Query :=
  { Query.plain "orders" .read with
    filters := some ⟨false, [⟨"customers.city", .equal (.string "Graz")⟩,
      ⟨"state", .oneOf [.string "new", .string "paid"]⟩,
      ⟨"tags", .notContains [.bool true]⟩,
      ⟨"day", .range (some (.string "a")) (some (.string "b"))⟩]⟩ }

theorem outer_filter_first_fills_its_holes :
    ∃ compiled, (Compiler.of .mysql 10).compile outerFilterFirst = .ok compiled ∧
      compiled.bindings = [.string "new", .string "paid", .string "[true]", .string "a",
        .string "b", .string "Graz"] ∧
      ∃ plan lexemes, outerFilterFirst.plan .mysql 10 false = .ok plan ∧
        holes (plan.marked .mysql) = compiled.bindings ∧
        plan.values = compiled.bindings ∧
        compiled.text = String.ofList (fill .mysql 1 (plan.marked .mysql)) ∧
        scan .mysql compiled.text.toList = some lexemes ∧
        lexemes.filterMap Lexeme.placeholder? =
          (List.range' 1 compiled.bindings.length).map Dialect.mysql.placeholderNumber ∧
        putBack lexemes compiled.bindings = some ((plan.sql .mysql).filter (· ≠ .space)) := by
  have compiles : (Compiler.of .mysql 10).compile outerFilterFirst = .ok _ := rfl
  exact ⟨_, compiles, rfl, compiled_values_fill_their_holes compiles⟩

end Polyquery
