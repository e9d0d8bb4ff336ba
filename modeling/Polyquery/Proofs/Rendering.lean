import Mathlib.Data.List.Basic
import Polyquery.Compile.Compiled
import Polyquery.Proofs.Predicates
import Polyquery.Sql.Rendering

/-! What is rendered is what the tokens say. A rendering goes through a statement with a
counter and a list of values; wherever the counter stands, it writes the text of the tokens
with the placeholders numbered on from there, and puts the values of the tokens behind those
it has. This is closed under texts without values, sequences and lists, and so goes from the
leaves of a condition up to the statement. -/
namespace Polyquery
open Sql

namespace Sql

variable {dialect : Dialect}

/-! ## Tokens without values -/

@[simp] theorem bindings_nil : bindings [] = [] := rfl
@[simp] theorem bindings_word {w : Word} {a : Sql} : bindings (.word w :: a) = bindings a := rfl
@[simp] theorem bindings_mark {m : Mark} {a : Sql} : bindings (.mark m :: a) = bindings a := rfl
@[simp] theorem bindings_space {a : Sql} : bindings (.space :: a) = bindings a := rfl
@[simp] theorem bindings_number {n : Nat} {a : Sql} : bindings (.number n :: a) = bindings a := rfl
@[simp] theorem bindings_name {s : String} {a : Sql} : bindings (.name s :: a) = bindings a := rfl
@[simp] theorem bindings_bound {v : Value} {a : Sql} :
    bindings (.bound v :: a) = v :: bindings a := rfl

theorem bindings_flatMap {α : Type} (list : List α) (f : α → Sql) :
    bindings (list.flatMap f) = list.flatMap fun a => bindings (f a) := List.filterMap_flatMap

/-- A separator without values adds none. -/
theorem bindings_intersperse {separator : Sql} (silent : bindings separator = []) (parts : List Sql) :
    bindings (Text.intersperse separator parts) = parts.flatMap bindings := by
  induction parts with
  | nil => rfl
  | cons first others ih =>
    cases others with
    | nil => simp [Text.intersperse]
    | cons second more =>
      rw [Text.intersperse, bindings_append, bindings_append, silent, ih, List.flatMap_cons]
      · simp
      · simp

@[simp] theorem bindings_commas (parts : List Sql) :
    bindings (commas parts) = parts.flatMap bindings := bindings_intersperse rfl parts

@[simp] theorem bindings_join (op : Connective) (parts : List Sql) :
    bindings (op.join parts) = parts.flatMap bindings := bindings_intersperse rfl parts

@[simp] theorem bindings_words (list : List Word) : bindings (words list) = [] := by
  rw [words, bindings_intersperse rfl]
  simp

@[simp] theorem bindings_parenthesized (a : Sql) : bindings (parenthesized a) = bindings a := by
  simp [parenthesized, bindings_append]

@[simp] theorem bindings_path (name : String) : bindings (path name) = [] := by
  rw [path, bindings_intersperse rfl]
  simp

@[simp] theorem bindings_column (ref : ColumnRef) : bindings ref.sql = [] := by
  obtain ⟨table, column⟩ := ref
  cases table <;> simp [ColumnRef.sql, bindings_append]

@[simp] theorem bindings_aliased (a b : Sql) :
    bindings (dialect.aliased a b) = bindings a ++ bindings b := by
  cases dialect <;> simp [Dialect.aliased, bindings_append]

@[simp] theorem bindings_table (table : TableRef) : bindings (table.sql dialect) = [] := by
  obtain ⟨name, schema, label⟩ := table
  cases schema <;> cases label <;> simp [TableRef.sql]

@[simp] theorem bindings_projection (projection : Projection) : bindings projection.sql = [] := by
  cases projection with
  | all => rfl
  | columns outputs =>
    have silent (output : Output) : bindings output.sql = [] := by
      unfold Output.sql
      split <;> simp [bindings_append]
    simp [Projection.sql, silent, List.flatMap_map]

@[simp] theorem bindings_returning (returning : Option Projection) :
    bindings (returningSql returning) = [] := by
  cases returning <;> simp [returningSql]

@[simp] theorem bindings_joined (join : Join) : bindings (join.sql dialect) = [] := by
  simp [Join.sql, bindings_append, List.flatMap_map]

@[simp] theorem bindings_order (order : List SortKey) : bindings (orderSql order) = [] := by
  unfold orderSql
  split <;> simp [bindings_append, SortKey.sql, List.flatMap_map]

@[simp] theorem bindings_limitInFront (limit offset : Option Nat) :
    bindings (dialect.limitInFront limit offset) = [] := by
  unfold Dialect.limitInFront
  split <;> simp [bindings_append]

@[simp] theorem bindings_skipRows (offset : Option Nat) : bindings (Dialect.skipRows offset) = [] := by
  cases offset <;> rfl

@[simp] theorem bindings_fetchRows (limit : Option Nat) : bindings (Dialect.fetchRows limit) = [] := by
  cases limit <;> simp [Dialect.fetchRows, bindings_append]

@[simp] theorem bindings_limitBehind (limit offset : Option Nat) (ordered : Bool) :
    bindings (dialect.limitBehind limit offset ordered) = [] := by
  cases dialect <;> cases limit <;> cases offset <;> cases ordered <;>
    simp [Dialect.limitBehind, bindings_append]

@[simp] theorem bindings_defaultRow : bindings dialect.defaultRow = [] := by
  cases dialect <;> simp [Dialect.defaultRow, bindings_append]

@[simp] theorem bindings_missingCell : bindings dialect.missingCell = [] := by
  cases dialect <;> rfl

theorem bindings_keySelection {selection : Sql} (selected : dialect.keySelection = some selection) :
    bindings selection = [] := by
  cases dialect <;> cases selected
  simp [bindings_append]

theorem bindings_insertion {target columns : Sql} (targetSilent : bindings target = [])
    (columnsSilent : bindings columns = []) (values : Sql) :
    bindings (Dialect.insertion target columns values) = bindings values := by
  simp [Dialect.insertion, bindings_append, targetSilent, columnsSilent]

theorem bindings_insertRows {target columns : Sql} (targetSilent : bindings target = [])
    (columnsSilent : bindings columns = []) (tuples : List Sql) :
    bindings (dialect.insertRows target columns tuples) = tuples.flatMap bindings := by
  unfold Dialect.insertRows
  split <;>
    simp [bindings_append, bindings_flatMap, bindings_insertion targetSilent columnsSilent]

/-! ## Text behind the placeholders so far -/

/-- The placeholders so far and those of further values. -/
def Params.with (params : Params) (values : List Value) : Params :=
  ⟨params.index + values.length, params.values ++ values⟩

/-- The text of tokens whose placeholders go on from those so far. -/
def Params.text (params : Params) (dialect : Dialect) (sql : Sql) : List Char :=
  writeFrom dialect (params.index + 1) sql

/-- The texts of parts that stand one behind another. -/
def Params.texts (params : Params) (dialect : Dialect) : List Sql → List (List Char)
  | [] => []
  | part :: rest => params.text dialect part :: (params.with (bindings part)).texts dialect rest

@[simp] theorem Params.with_nil (params : Params) : params.with [] = params := by
  simp [Params.with]

@[simp] theorem Params.with_with (params : Params) (a b : List Value) :
    (params.with a).with b = params.with (a ++ b) := by
  have values : params.values ++ a ++ b = params.values ++ (a ++ b) := by
    rw [← Array.toList_inj]
    simp
  simp [Params.with, Nat.add_assoc, values]

variable (params : Params)

@[simp] theorem text_nil : params.text dialect [] = [] := rfl
@[simp] theorem text_word (w : Word) (a : Sql) :
    params.text dialect (.word w :: a) = w.text.toList ++ params.text dialect a := rfl
@[simp] theorem text_mark (m : Mark) (a : Sql) :
    params.text dialect (.mark m :: a) = m.text.toList ++ params.text dialect a := rfl
@[simp] theorem text_space (a : Sql) :
    params.text dialect (.space :: a) = ' ' :: params.text dialect a := rfl
@[simp] theorem text_number (n : Nat) (a : Sql) :
    params.text dialect (.number n :: a) = Nat.toDigits 10 n ++ params.text dialect a := rfl
@[simp] theorem text_name (s : String) (a : Sql) :
    params.text dialect (.name s :: a) = dialect.quoteName s ++ params.text dialect a := rfl
@[simp] theorem text_bound (v : Value) (a : Sql) : params.text dialect (.bound v :: a) =
    dialect.placeholder (params.index + 1) ++ (params.with [v]).text dialect a := rfl

@[simp] theorem text_append (a b : Sql) : params.text dialect (a ++ b) =
    params.text dialect a ++ (params.with (bindings a)).text dialect b := by
  simp only [Params.text, Params.with, writeFrom_append, Nat.add_right_comm]

/-- Without placeholders it does not matter how they would be numbered. -/
theorem writeFrom_silent {sql : Sql} (silent : bindings sql = []) (index : Nat) :
    writeFrom dialect index sql = plain dialect sql := by
  unfold plain
  induction sql generalizing index with
  | nil => rfl
  | cons token rest ih =>
    cases token with
    | bound value => cases silent
    | word | mark | space | number | name => exact congrArg (_ ++ ·) (ih silent _)

theorem text_silent {sql : Sql} (silent : bindings sql = []) :
    params.text dialect sql = plain dialect sql := writeFrom_silent silent _

@[simp] theorem length_texts (parts : List Sql) :
    (params.texts dialect parts).length = parts.length := by
  induction parts generalizing params with
  | nil => rfl
  | cons part rest ih => simp [Params.texts, ih]

theorem texts_names (names : List String) :
    params.texts dialect (names.map fun s => [.name s]) = names.map dialect.quoteName := by
  induction names generalizing params with
  | nil => rfl
  | cons name rest ih => simp [Params.texts, ih]

theorem text_intersperse {separator : Sql} (silent : bindings separator = []) (parts : List Sql) :
    params.text dialect (Text.intersperse separator parts) =
      Text.intersperse (plain dialect separator) (params.texts dialect parts) := by
  induction parts generalizing params with
  | nil => rfl
  | cons first others ih =>
    cases others with
    | nil => simp [Text.intersperse, Params.texts]
    | cons second more =>
      rw [Text.intersperse, text_append, text_append, text_silent _ silent, bindings_append, silent,
        List.append_nil, ih]
      · rfl
      · simp

@[simp] theorem text_commas (parts : List Sql) :
    params.text dialect (commas parts) = joined ", " (params.texts dialect parts) :=
  text_intersperse params rfl parts

@[simp] theorem text_join (op : Connective) (parts : List Sql) :
    params.text dialect (op.join parts) = joined op.joiner (params.texts dialect parts) := by
  cases op <;> exact text_intersperse params rfl parts

@[simp] theorem text_parenthesized (a : Sql) :
    params.text dialect (parenthesized a) = '(' :: params.text dialect a ++ [')'] := by
  simp [parenthesized, Mark.text]

/-! ## Renderings -/

/-- A rendering writes tokens, wherever their placeholders begin. -/
def Renders (dialect : Dialect) (rendering : Rendering (List Char)) (sql : Sql) : Prop :=
  ∀ params : Params, rendering.run params = (params.text dialect sql, params.with (bindings sql))

/-- A rendering writes parts that stand one behind another. -/
def RendersEach (dialect : Dialect) (rendering : Rendering (List (List Char))) (parts : List Sql) :
    Prop :=
  ∀ params : Params,
    rendering.run params = (params.texts dialect parts, params.with (parts.flatMap bindings))

variable {params}

theorem run_return {α : Type} (a : α) (params : Params) :
    (pure a : Rendering α).run params = (a, params) := rfl

theorem Renders.bind {α : Type} {rendering : Rendering (List Char)} {sql : Sql}
    (renders : Renders dialect rendering sql) (next : List Char → Rendering α) (params : Params) :
    (rendering >>= next).run params =
      (next (params.text dialect sql)).run (params.with (bindings sql)) := by
  rw [StateT.run_bind, renders]
  rfl

theorem RendersEach.bind {α : Type} {rendering : Rendering (List (List Char))} {parts : List Sql}
    (renders : RendersEach dialect rendering parts) (next : List (List Char) → Rendering α)
    (params : Params) :
    (rendering >>= next).run params =
      (next (params.texts dialect parts)).run (params.with (parts.flatMap bindings)) := by
  rw [StateT.run_bind, renders]
  rfl

theorem renders_placed (value : Value) : Renders dialect (placed dialect value) [.bound value] := by
  intro params
  rw [text_bound, text_nil, List.append_nil]
  rfl

theorem renders_plain {sql : Sql} (silent : bindings sql = []) :
    Renders dialect (pure (plain dialect sql)) sql := by
  intro params
  rw [run_return, text_silent params silent, silent, Params.with_nil]

theorem renders_mapM {α : Type} {render : α → Rendering (List Char)} {sql : α → Sql}
    {list : List α} (renders : ∀ a ∈ list, Renders dialect (render a) (sql a)) :
    RendersEach dialect (list.mapM render) (list.map sql) := by
  induction list with
  | nil =>
    intro params
    rw [List.mapM_nil, run_return]
    simp [Params.texts]
  | cons first rest ih =>
    have others := ih fun a member => renders a (List.mem_cons_of_mem first member)
    intro params
    rw [List.mapM_cons, (renders first List.mem_cons_self).bind, others.bind, run_return]
    simp [Params.texts]

/-! ## Conditions -/

theorem renders_boundList (values : List Value) :
    RendersEach dialect (values.mapM (placed dialect)) (values.map fun v => [.bound v]) :=
  renders_mapM fun v _ => renders_placed v

@[simp] theorem text_column (ref : ColumnRef) :
    params.text dialect ref.sql = plain dialect ref.sql := text_silent params (bindings_column ref)

/-- A leaf writes its column and binds its values. -/
theorem renders_leaf {p : Predicate} (leaf : p.isLeaf = true) :
    Renders dialect (p.render dialect) (p.sql dialect) := by
  intro params
  cases p with
  | group | not => cases leaf
  | oneOf column values =>
    cases values with
    | nil =>
      rw [Predicate.render, run_return]
      simp [Predicate.sql, Mark.text]
      rfl
    | cons first rest =>
      rw [Predicate.render, (renders_boundList (first :: rest)).bind, run_return]
      · simp [Predicate.sql, boundList, Word.text, bindings_append]
      · exact List.cons_ne_nil first rest
  | isNull column negated =>
    rw [Predicate.render, run_return]
    cases negated <;>
      simp [Predicate.sql, words, Text.intersperse, Word.text, bindings_append]
  | between column low high =>
    rw [Predicate.render, (renders_placed low).bind, (renders_placed high).bind, run_return]
    simp [Predicate.sql, Word.text, bindings_append]
  | compare column op value =>
    rw [Predicate.render, (renders_placed value).bind, run_return]
    simp [Predicate.sql, bindings_append]
  | like column value =>
    rw [Predicate.render, (renders_placed value).bind, run_return]
    simp only [Predicate.sql, Dialect.matching, Dialect.matchingText]
    split <;> simp [Word.text, bindings_append]
  | containsJson column value =>
    rw [Predicate.render, (renders_placed value).bind, run_return]
    simp [Predicate.sql, Mark.text, Word.text, bindings_append]
  | hasAny column values =>
    rw [Predicate.render, (renders_boundList values).bind, run_return]
    simp [Predicate.sql, boundList, Mark.text, Word.text, bindings_append]
  | jsonFunction column function value =>
    rw [Predicate.render, (renders_placed value).bind, run_return]
    simp [Predicate.sql, Params.texts]

theorem renderParts_eq_mapM (parts : List Predicate) :
    renderParts dialect parts = parts.mapM (Predicate.render dialect) := by
  induction parts with
  | nil => rw [renderParts, List.mapM_nil]
  | cons part rest ih => rw [renderParts, ih, List.mapM_cons]

theorem renders_predicate (p : Predicate) : Renders dialect (p.render dialect) (p.sql dialect) := by
  induction p using Predicate.induction with
  | leaf p leaf => exact renders_leaf leaf
  | group op parts ih =>
    intro params
    rw [Predicate.render, renderParts_eq_mapM, (renders_mapM ih).bind]
    -- a group of one part is written as that part, without parentheses
    by_cases single : parts.length = 1
    · obtain ⟨only, rfl⟩ := List.length_eq_one_iff.1 single
      rw [sql_group_one, ← List.append_nil (bindings (only.sql dialect))]
      rfl
    · rw [sql_group_several dialect op single, text_parenthesized, text_join, bindings_parenthesized,
        bindings_join]
      match parts with
      | [] | _ :: _ :: _ => rfl
  | not inner ih =>
    intro params
    rw [Predicate.render, ih.bind, run_return, sql_not]
    split <;> simp [Word.text]

theorem renders_clause (condition : Condition) :
    Renders dialect (condition.render dialect) (condition.clause dialect) := by
  intro params
  unfold Condition.render Condition.clause
  split
  · rw [run_return]
    simp
  · have parts : RendersEach dialect (renderParts dialect condition.parts)
        (condition.parts.map (·.sql dialect)) := by
      rw [renderParts_eq_mapM]
      exact renders_mapM fun p _ => renders_predicate p
    rw [parts.bind, run_return, condition_sql]
    simp [Word.text]

/-! ## Statements -/

/-- The select is rendered around its source. -/
theorem renders_clauses (clauses : Clauses) {rendering : Rendering (List Char)} {source : Sql}
    (renders : Renders dialect rendering source) :
    Renders dialect (clauses.render dialect rendering) (clauses.sql dialect source) := by
  intro params
  have joins (params : Params) :
      params.text dialect (clauses.joins.flatMap fun join => .space :: join.sql dialect) =
        clauses.joins.flatMap fun join => ' ' :: plain dialect (join.sql dialect) := by
    induction clauses.joins with
    | nil => rfl
    | cons join rest ih => simp [text_silent _ (bindings_joined join), ih]
  have silent : bindings (clauses.joins.flatMap fun join => .space :: join.sql dialect) = [] := by
    simp [bindings_flatMap]
  rw [Clauses.render, renders.bind, (renders_clause clauses.condition).bind, run_return]
  simp [Clauses.sql, bindings_append, joins, silent, Word.text,
    text_silent _ (bindings_limitInFront clauses.limit clauses.offset),
    text_silent _ (bindings_projection clauses.projection), text_silent _ (bindings_order clauses.order),
    text_silent _ (bindings_limitBehind clauses.limit clauses.offset (!clauses.order.isEmpty))]

theorem text_aliased (a b : Sql) : params.text dialect (dialect.aliased a b) =
    dialect.aliasedText (params.text dialect a) ((params.with (bindings a)).text dialect b) := by
  cases dialect <;> simp [Dialect.aliased, Dialect.aliasedText, Word.text]

theorem renders_select (select : Select) :
    Renders dialect (select.render dialect) (select.sql dialect) := by
  induction select with
  | table source clauses => exact renders_clauses clauses (renders_plain (bindings_table source))
  | derived inner label clauses ih =>
    refine renders_clauses clauses fun params => ?_
    rw [ih.bind, run_return, text_aliased]
    simp

theorem renders_cell (cell : Option Value) : Renders dialect (Insert.renderCell dialect cell)
    (match cell with
      | some value => [.bound value]
      | none => dialect.missingCell) := by
  cases cell with
  | some value => exact renders_placed value
  | none => exact renders_plain bindings_missingCell

theorem renders_listed {rendering : Rendering (List (List Char))} {parts : List Sql}
    (renders : RendersEach dialect rendering parts) :
    Renders dialect (do return '(' :: joined ", " (← rendering) ++ [')']) (parenthesized (commas parts)) := by
  intro params
  rw [renders.bind, run_return]
  simp

theorem renders_tuple (row : List (Option Value)) :
    Renders dialect (Insert.renderTuple dialect row) (Insert.tupleSql dialect row) :=
  renders_listed (renders_mapM fun cell _ => renders_cell cell)

section Rows

variable {target columns : Sql} (targetSilent : bindings target = [])
  (columnsSilent : bindings columns = [])
include targetSilent columnsSilent

theorem text_insertion (params : Params) (values : Sql) :
    params.text dialect (Dialect.insertion target columns values) =
      Dialect.insertionText (plain dialect target) (plain dialect columns)
        (params.text dialect values) := by
  unfold Dialect.insertion Dialect.insertionText
  simp [Word.text, targetSilent, columnsSilent, text_silent _ targetSilent,
    text_silent _ columnsSilent]

theorem text_insertions (params : Params) (tuples : List Sql) :
    params.text dialect
        (tuples.flatMap fun tuple => .space :: Dialect.insertion target columns tuple) =
      (params.texts dialect tuples).flatMap fun tuple =>
        ' ' :: Dialect.insertionText (plain dialect target) (plain dialect columns) tuple := by
  induction tuples generalizing params with
  | nil => rfl
  | cons tuple rest ih =>
    simp [Params.texts, text_insertion targetSilent columnsSilent,
      bindings_insertion targetSilent columnsSilent, ih]

theorem text_insertRows (params : Params) (tuples : List Sql) :
    params.text dialect (dialect.insertRows target columns tuples) =
      dialect.insertRowsText (plain dialect target) (plain dialect columns)
        (params.texts dialect tuples) := by
  unfold Dialect.insertRows Dialect.insertRowsText
  rw [length_texts]
  split
  · simp [text_insertions targetSilent columnsSilent, words, Text.intersperse, Word.text]
    rfl
  · simp [text_insertion targetSilent columnsSilent, Word.text]

end Rows

theorem renders_rows (insert : Insert) : Renders dialect (insert.renderRows dialect)
    (if insert.columns.isEmpty then
      words [.insert, .into] ++ .space :: insert.table.sql dialect ++ dialect.defaultRow
    else dialect.insertRows (insert.table.sql dialect)
      (commas (insert.columns.map fun column => [.name column]))
      (insert.rows.map (Insert.tupleSql dialect))) := by
  have table : bindings (insert.table.sql dialect) = [] := bindings_table insert.table
  have named : bindings (commas (insert.columns.map fun column => [.name column])) = [] := by
    simp [List.flatMap_map]
  have written : plain dialect (commas (insert.columns.map fun column => [.name column])) =
      joined ", " (insert.columns.map dialect.quoteName) := by
    rw [← text_silent Params.none named, text_commas, texts_names]
  intro params
  unfold Insert.renderRows
  split
  · rw [run_return]
    simp [words, Text.intersperse, Word.text, bindings_append, text_silent _ table,
      text_silent _ bindings_defaultRow]
  · have tuples : RendersEach dialect (insert.rows.mapM (Insert.renderTuple dialect))
        (insert.rows.map (Insert.tupleSql dialect)) := renders_mapM fun row _ => renders_tuple row
    rw [tuples.bind, run_return, text_insertRows table named, bindings_insertRows table named, written]

theorem renders_insert (insert : Insert) :
    Renders dialect (insert.render dialect) (insert.sql dialect) := by
  intro params
  rw [Insert.render, (renders_rows insert).bind, run_return]
  have returning : bindings (returningSql insert.returning) = [] := bindings_returning insert.returning
  cases selects : insert.selectsKey with
  | false => simp [Insert.sql, selects, bindings_append, text_silent _ returning]
  | true =>
    cases selected : dialect.keySelection with
    | none => simp [Insert.sql, selects, selected, bindings_append, text_silent _ returning]
    | some selection =>
      have silent : bindings selection = [] := bindings_keySelection selected
      simp [Insert.sql, selects, selected, bindings_append, silent, text_silent _ returning,
        text_silent _ silent, Mark.text]

theorem renders_assignments (assignments : List (String × Value)) :
    RendersEach dialect (assignments.mapM (Update.renderAssignment dialect))
      (assignments.map fun assignment =>
        [.name assignment.1, .space, .mark .equal, .space, .bound assignment.2]) := by
  refine renders_mapM fun assignment _ params => ?_
  rw [Update.renderAssignment, (renders_placed assignment.2).bind, run_return]
  simp [Mark.text]

theorem renders_update (update : Update) :
    Renders dialect (update.render dialect) (update.sql dialect) := by
  intro params
  rw [Update.render, (renders_assignments update.assignments).bind,
    (renders_clause update.condition).bind, run_return]
  simp [Update.sql, bindings_append, Word.text, text_silent _ (bindings_table update.table),
    text_silent _ (bindings_returning update.returning)]

theorem renders_delete (delete : Delete) :
    Renders dialect (delete.render dialect) (delete.sql dialect) := by
  intro params
  rw [Delete.render, (renders_clause delete.condition).bind, run_return]
  simp [Delete.sql, bindings_append, words, Text.intersperse, Word.text,
    text_silent _ (bindings_table delete.table), text_silent _ (bindings_returning delete.returning)]

/-- A statement is rendered as its tokens are written. -/
theorem renders_statement (statement : Statement) :
    Renders dialect (statement.render dialect) (statement.sql dialect) := by
  cases statement with
  | select read => exact renders_select read
  | insert write => exact renders_insert write
  | update write => exact renders_update write
  | delete write => exact renders_delete write

end Sql

namespace Compiler

variable (compiler : Compiler) (operation : Operation) (statement : Statement)

/-- A compiled statement has the text of its tokens, and the values bound in them. -/
theorem write_eq : compiler.write operation statement =
    ⟨(statement.sql compiler.dialect).write compiler.dialect, bindings (statement.sql compiler.dialect),
      operation, statement.yieldsRows compiler.dialect⟩ := by
  rw [write, renders_statement statement Params.none]
  simp [Params.text, Params.with, Params.none, Sql.write]

@[simp] theorem write_text : (compiler.write operation statement).text.toList =
    writeFrom compiler.dialect 1 (statement.sql compiler.dialect) := by
  rw [write_eq, Sql.write, String.toList_ofList]

@[simp] theorem write_bindings : (compiler.write operation statement).bindings =
    bindings (statement.sql compiler.dialect) := by
  rw [write_eq]

end Compiler
end Polyquery
