import Polyquery.Proofs.InsertedCells
import Polyquery.Proofs.RowWindow

/-! How many rows an insert adds, as its text says. Depending on the dialect and on what
all rows have together, a bulk create is written with a list of tuples, with one insertion
for each row, or without any column. The text is taken apart into what stands in
parentheses and what stands outside, and from these parts the rows are counted by the
grammar of the dialect. -/
namespace Polyquery
open Sql

namespace Sql

/-! ## Reading inserts -/

/-- What stands outside of parentheses, or all that stands between two of them. -/
inductive Part where
  | plain (lexeme : Lexeme)
  | group (inside : List Lexeme)
  deriving DecidableEq

/-- The parts of a text, and what stands in front of the closing parenthesis if the text
begins behind an open one. Of the path to a table only the last name is kept. -/
def readParts : Bool → List Lexeme → Option (List Lexeme × List Part)
  | false, [] => some ([], [])
  | true, [] => none
  | true, .mark .close :: rest => (readParts false rest).map fun read => ([], read.2)
  | true, lexeme :: rest => (readParts true rest).map fun read => (lexeme :: read.1, read.2)
  | false, .mark .open :: rest => (readParts true rest).map fun read => ([], .group read.1 :: read.2)
  | false, .name _ :: .mark .dot :: rest => readParts false rest
  | false, lexeme :: rest => (readParts false rest).map fun read => ([], .plain lexeme :: read.2)

def parts? (lexemes : List Lexeme) : Option (List Part) := (readParts false lexemes).map Prod.snd

/-- The items of a list, which has commas between them. -/
def items? : List Lexeme → Option (List Lexeme)
  | [] => some []
  | [item] => some [item]
  | item :: .mark .comma :: next :: rest => (items? (next :: rest)).map (item :: ·)
  | _ :: _ :: _ => none

def Lexeme.isName : Lexeme → Bool
  | .name _ => true
  | _ => false

end Sql

namespace Dialect

/-- What may stand in a row for the value of a column. -/
def isCell (dialect : Dialect) : Lexeme → Bool
  | .placeholder _ | .word .null => true
  | .word .default => dialect ≠ .oracle
  | _ => false

/-- A row of so many cells in parentheses. -/
def isTuple (dialect : Dialect) (width : Nat) : Part → Bool
  | .plain _ => false
  | .group inside =>
    (items? inside).any fun cells => cells.all dialect.isCell && cells.length == width

/-- The number of columns named in parentheses. Only MySQL may name none. -/
def width? (dialect : Dialect) (columns : List Lexeme) : Option Nat :=
  match items? columns with
  | some names =>
    if names.all Lexeme.isName && (!names.isEmpty || dialect = .mysql || dialect = .mariadb) then
      some names.length
    else none
  | none => none

/-- The number of tuples of so many cells, with commas between them. -/
def countTuples? (dialect : Dialect) (width : Nat) : List Part → Option Nat
  | [tuple] => if dialect.isTuple width tuple then some 1 else none
  | tuple :: .plain (.mark .comma) :: next :: rest =>
    if dialect.isTuple width tuple then (countTuples? dialect width (next :: rest)).map (· + 1) else none
  | _ => none

/-- The number of insertions of one tuple each, up to the row that is selected for
them. -/
def countInsertions? (dialect : Dialect) : List Part → Option Nat
  | [.plain (.word .select), .plain (.number 1), .plain (.word .from), .plain (.word .dual)] => some 0
  | .plain (.word .into) :: .plain (.name _) :: .group columns :: .plain (.word .values) ::
      tuple :: rest =>
    if (dialect.width? columns).any fun width => dialect.isTuple width tuple then
      (countInsertions? dialect rest).map (· + 1)
    else none
  | _ => none

/-- The number of rows that an insert adds, by the grammar of the dialect: one row of
defaults, or as many as there are tuples. Oracle has one tuple behind `VALUES`, and
several insertions in one statement. -/
def rowsAdded? (dialect : Dialect) (lexemes : List Lexeme) : Option Nat :=
  match parts? lexemes with
  | some [.plain (.word .insert), .plain (.word .into), .plain (.name _), .plain (.word .default),
      .plain (.word .values)] =>
    if dialect = .postgres ∨ dialect = .sqlServer then some 1 else none
  | some (.plain (.word .insert) :: .plain (.word .all) :: insertions) =>
    if dialect = .oracle then (dialect.countInsertions? insertions).filter (0 < ·) else none
  | some (.plain (.word .insert) :: .plain (.word .into) :: .plain (.name _) :: .group columns ::
      .plain (.word .values) :: tuples) =>
    ((dialect.width? columns).bind fun width => dialect.countTuples? width tuples).filter fun rows =>
      dialect ≠ .oracle ∨ rows = 1
  | _ => none

end Dialect

/-- An insert that names no column. -/
def Sql.isColumnless (lexemes : List Lexeme) : Bool :=
  match parts? lexemes with
  | some (.plain (.word .insert) :: .plain (.word .into) :: .plain (.name _) ::
      .plain (.word .default) :: _) => true
  | some (.plain (.word .insert) :: .plain (.word .into) :: .plain (.name _) :: .group [] :: _) => true
  | _ => false

namespace Sql

/-! ## Parts of inserts -/

variable {dialect : Dialect} {first second inside : List Lexeme} {before after : List Part}

/-- The lexemes are read as these parts, whatever stands behind them. -/
def ReadAsParts (lexemes : List Lexeme) (parts : List Part) : Prop :=
  ∀ behind, parts? (lexemes ++ behind) = (parts? behind).map (parts ++ ·)

theorem ReadAsParts.append (front : ReadAsParts first before) (back : ReadAsParts second after) :
    ReadAsParts (first ++ second) (before ++ after) := by
  intro behind
  rw [List.append_assoc, front, back, Option.map_map]
  simp [Function.comp_def]

theorem ReadAsParts.whole (read : ReadAsParts first before) : parts? first = some before := by
  have alone := read []
  simpa [parts?, readParts] using alone

theorem readAsParts_nil : ReadAsParts [] [] := by
  intro behind
  simp

/-- A lexeme outside of parentheses is a part, unless a path goes on behind it. -/
theorem parts?_cons {lexeme : Lexeme} {rest : List Lexeme} (outside : lexeme ≠ .mark .open)
    (last : lexeme.isName = true → rest.head? ≠ some (.mark .dot)) :
    parts? (lexeme :: rest) = (parts? rest).map (.plain lexeme :: ·) := by
  simp only [parts?]
  rw [readParts]
  · simp [Function.comp_def]
  · exact outside
  · rintro name behind rfl rfl
    exact last rfl rfl

theorem ReadAsParts.behind {lexeme : Lexeme} (outside : lexeme ≠ .mark .open)
    (unnamed : lexeme.isName = false) (read : ReadAsParts first before) :
    ReadAsParts (lexeme :: first) (.plain lexeme :: before) := by
  intro behind
  rw [List.cons_append, parts?_cons outside (by simp [unnamed]), read, Option.map_map]
  rfl

theorem ReadAsParts.behind_word (word : Word) (read : ReadAsParts first before) :
    ReadAsParts (.word word :: first) (.plain (.word word) :: before) :=
  read.behind (by simp) rfl

theorem readParts_inside (unclosed : .mark .close ∉ inside) (behind : List Lexeme) :
    readParts true (inside ++ .mark .close :: behind) =
      (readParts false behind).map fun read => (inside, read.2) := by
  induction inside with
  | nil => rfl
  | cons lexeme rest ih =>
    rw [List.mem_cons, not_or] at unclosed
    rw [List.cons_append, readParts, ih unclosed.2, Option.map_map]
    · rfl
    · exact fun same => unclosed.1 same.symm

theorem readAsParts_group (unclosed : .mark .close ∉ inside) :
    ReadAsParts (.mark .open :: inside ++ [.mark .close]) [.group inside] := by
  intro behind
  have opened : parts? (.mark .open :: inside ++ [.mark .close] ++ behind) =
      (readParts true (inside ++ .mark .close :: behind)).map fun read => .group read.1 :: read.2 := by
    simp [parts?, readParts, Function.comp_def]
  rw [opened, readParts_inside unclosed, Option.map_map, parts?, Option.map_map]
  rfl

/-- Of a table the last name of its path is kept. -/
theorem ReadAsParts.behind_table {table : TableRef} (unlabelled : table.label = none) (index : Nat)
    {next : Lexeme} (apart : next ≠ .mark .dot) (read : ReadAsParts (next :: first) before) :
    ReadAsParts (lexemesFrom dialect index (table.sql dialect) ++ next :: first)
      (.plain (.name table.name) :: before) := by
  obtain ⟨name, schema, label⟩ := table
  cases unlabelled
  intro behind
  have named : parts? (.name name :: next :: (first ++ behind)) =
      (parts? (next :: (first ++ behind))).map (.plain (.name name) :: ·) :=
    parts?_cons (by simp) (by simp [apart])
  have rest : parts? (next :: (first ++ behind)) = _ := read behind
  have read : parts? (.name name :: next :: (first ++ behind)) =
      (parts? behind).map (.plain (.name name) :: before ++ ·) := by
    rw [named, rest, Option.map_map]
    rfl
  cases schema with
  | none => exact read
  | some schema =>
    have qualified : parts? (.name schema :: .mark .dot :: .name name :: next :: (first ++ behind)) =
        parts? (.name name :: next :: (first ++ behind)) := by
      simp only [parts?]
      rw [readParts]
    exact qualified.trans read

/-! ## Lists -/

variable (dialect)

/-- What a list between parentheses is written with: neither a blank nor a closing
parenthesis. -/
def Token.isItem : Token → Bool
  | .space | .mark .close => false
  | _ => true

theorem commas_cons_cons (part next : Sql) (rest : List Sql) :
    commas (part :: next :: rest) = part ++ [.mark .comma, .space] ++ commas (next :: rest) := rfl

theorem lexeme?_item {token : Token} (item : token.isItem = true) (index : Nat) :
    ∃ lexeme, token.lexeme? dialect index = some lexeme ∧ lexeme ≠ .mark .close := by
  cases token with
  | space => cases item
  | mark m =>
    refine ⟨.mark m, rfl, ?_⟩
    rintro ⟨⟩
    cases item
  | word | number | name | bound => exact ⟨_, rfl, by simp⟩

/-- The lexemes are a list of what these tokens are read as. -/
structure ListOf (dialect : Dialect) (tokens : List Token) (lexemes items : List Lexeme) : Prop where
  read : items? lexemes = some items
  unclosed : .mark .close ∉ lexemes
  width : items.length = tokens.length
  each : ∀ item ∈ items, ∃ token ∈ tokens, ∃ index, token.lexeme? dialect index = some item

/-- An item in front of a list, with a comma behind it. -/
theorem ListOf.cons {token next : Token} {rest : List Token} {lexeme : Lexeme}
    {lexemes items : List Lexeme} {index : Nat} (read : token.lexeme? dialect index = some lexeme)
    (opened : lexeme ≠ .mark .close) (behind : ListOf dialect (next :: rest) lexemes items) :
    ListOf dialect (token :: next :: rest) (lexeme :: .mark .comma :: lexemes) (lexeme :: items) where
  read := by
    cases lexemes with
    | nil =>
      have none : items = [] := (Option.some.inj behind.read).symm
      have some := behind.width
      simp [none] at some
    | cons first last =>
      have whole : items? (lexeme :: .mark .comma :: first :: last) =
          (items? (first :: last)).map (lexeme :: ·) := rfl
      rw [whole, behind.read]
      rfl
  unclosed := by simpa [opened.symm] using behind.unclosed
  width := by simp [behind.width]
  each := by
    refine List.forall_mem_cons.2 ⟨⟨token, List.mem_cons_self, index, read⟩, fun item later => ?_⟩
    obtain ⟨source, member, found⟩ := behind.each item later
    exact ⟨source, List.mem_cons_of_mem _ member, found⟩

theorem listOf_commas {tokens : List Token} (written : ∀ token ∈ tokens, token.isItem = true)
    (index : Nat) :
    ∃ items, ListOf dialect tokens (lexemesFrom dialect index (commas (tokens.map ([·])))) items := by
  induction tokens generalizing index with
  | nil => exact ⟨[], rfl, by simp [commas, Text.intersperse, lexemesFrom], rfl, by simp⟩
  | cons token rest ih =>
    obtain ⟨item, others⟩ := List.forall_mem_cons.1 written
    obtain ⟨lexeme, read, opened⟩ := lexeme?_item dialect item index
    cases rest with
    | nil =>
      have alone : lexemesFrom dialect index (commas [[token]]) = [lexeme] := by
        simp [commas, Text.intersperse, lexemesFrom, read]
      rw [List.map_singleton, alone]
      exact ⟨[lexeme], rfl, by simp [opened.symm], rfl, by simpa using ⟨index, read⟩⟩
    | cons next more =>
      obtain ⟨items, behind⟩ := ih others (index + token.uses)
      have split : lexemesFrom dialect index (commas ((token :: next :: more).map ([·]))) =
          lexeme :: .mark .comma ::
            lexemesFrom dialect (index + token.uses) (commas ((next :: more).map ([·]))) := by
        rw [List.map_cons, List.map_cons, commas_cons_cons, List.append_assoc, List.singleton_append,
          lexemesFrom, read]
        rfl
      rw [split]
      exact ⟨_, behind.cons dialect read opened⟩

/-- A list in parentheses is one part. -/
theorem readAsParts_list {tokens : List Token} (written : ∀ token ∈ tokens, token.isItem = true)
    (index : Nat) :
    ∃ inside items, ListOf dialect tokens inside items ∧
      ReadAsParts (lexemesFrom dialect index (parenthesized (commas (tokens.map ([·])))))
        [.group inside] := by
  obtain ⟨items, list⟩ := listOf_commas dialect written index
  refine ⟨_, items, list, ?_⟩
  rw [lexemes_parenthesized]
  exact readAsParts_group list.unclosed

/-! ## Columns and tuples -/

/-- The token of a cell. -/
def cellToken (dialect : Dialect) : Option Value → Token
  | some value => .bound value
  | none => .word (if dialect = .oracle then .null else .default)

theorem tupleSql_eq (row : List (Option Value)) :
    Insert.tupleSql dialect row = parenthesized (commas ((row.map (cellToken dialect)).map ([·]))) := by
  rw [Insert.tupleSql, List.map_map]
  congr 2
  refine List.map_congr_left fun cell _ => ?_
  cases cell with
  | some value => rfl
  | none => cases dialect <;> rfl

theorem isCell_of_cellToken {cell : Option Value} {index : Nat} {lexeme : Lexeme}
    (read : (cellToken dialect cell).lexeme? dialect index = some lexeme) :
    dialect.isCell lexeme = true := by
  cases cell with
  | some value => cases read; rfl
  | none => cases read; cases dialect <;> rfl

/-- A row is read as a tuple with as many cells. -/
theorem readAsParts_tuple (row : List (Option Value)) (index : Nat) :
    ∃ tuple, dialect.isTuple row.length tuple = true ∧
      ReadAsParts (lexemesFrom dialect index (Insert.tupleSql dialect row)) [tuple] := by
  have written : ∀ token ∈ row.map (cellToken dialect), token.isItem = true := by
    intro token member
    obtain ⟨cell, _, rfl⟩ := List.mem_map.1 member
    cases cell <;> rfl
  obtain ⟨inside, items, list, read⟩ := readAsParts_list dialect written index
  refine ⟨.group inside, ?_, by rwa [tupleSql_eq]⟩
  have wide : items.length = row.length := by simpa using list.width
  have cells : items.all dialect.isCell = true := by
    rw [List.all_eq_true]
    intro item listed
    obtain ⟨token, member, place, found⟩ := list.each item listed
    obtain ⟨cell, _, rfl⟩ := List.mem_map.1 member
    exact isCell_of_cellToken dialect found
  simp [Dialect.isTuple, list.read, cells, wide]

/-- Columns in parentheses are read as such. -/
theorem readAsParts_columns {columns : List String} (named : columns ≠ []) (index : Nat) :
    ∃ inside, inside ≠ [] ∧ dialect.width? inside = some columns.length ∧
      ReadAsParts (lexemesFrom dialect index
        (parenthesized (commas (columns.map fun column => [.name column])))) [.group inside] := by
  have written : ∀ token ∈ columns.map Token.name, token.isItem = true := by
    intro token member
    obtain ⟨column, _, rfl⟩ := List.mem_map.1 member
    rfl
  obtain ⟨inside, items, list, read⟩ := readAsParts_list dialect written index
  have wide : items.length = columns.length := by simpa using list.width
  have some : items ≠ [] := by
    rintro rfl
    exact named (List.length_eq_zero_iff.1 wide.symm)
  have names : items.all Lexeme.isName = true := by
    rw [List.all_eq_true]
    intro item listed
    obtain ⟨token, member, place, found⟩ := list.each item listed
    obtain ⟨column, _, rfl⟩ := List.mem_map.1 member
    cases found
    rfl
  refine ⟨inside, ?_, ?_, by simpa [List.map_map, Function.comp_def] using read⟩
  · rintro rfl
    have empty := list.read
    cases empty
    exact some rfl
  · have kept : items.isEmpty = false := by simpa using some
    simp [Dialect.width?, list.read, names, kept, wide]

/-! ## Inserts -/

/-- Rows with commas between them are counted. -/
theorem readAsParts_tuples {width : Nat} {rows : List (List (Option Value))} (some : rows ≠ [])
    (wide : ∀ row ∈ rows, row.length = width) (index : Nat) :
    ∃ parts, dialect.countTuples? width parts = .some rows.length ∧
      ReadAsParts (lexemesFrom dialect index (commas (rows.map (Insert.tupleSql dialect)))) parts := by
  induction rows generalizing index with
  | nil => exact absurd rfl some
  | cons row rest ih =>
    obtain ⟨own, others⟩ := List.forall_mem_cons.1 wide
    obtain ⟨tuple, fits, read⟩ := readAsParts_tuple dialect row index
    rw [own] at fits
    cases rest with
    | nil => exact ⟨[tuple], by simp [Dialect.countTuples?, fits], read⟩
    | cons next more =>
      obtain ⟨parts, counted, behind⟩ := ih (by simp) others
        (index + (bindings (Insert.tupleSql dialect row)).length)
      refine ⟨tuple :: .plain (.mark .comma) :: parts, ?_, ?_⟩
      · cases parts with
        | nil => cases counted
        | cons first last =>
          rw [Dialect.countTuples?, if_pos fits, counted]
          rfl
      · rw [List.map_cons, List.map_cons, commas_cons_cons, List.append_assoc, lexemesFrom_append]
        exact read.append (behind.behind (by simp) rfl)

variable {table : TableRef} {columns : List String}

/-- The insertion of values into columns of a table. -/
def insertionSql (dialect : Dialect) (table : TableRef) (columns : List String) (values : Sql) : Sql :=
  Dialect.insertion (table.sql dialect) (commas (columns.map fun column => [.name column])) values

/-- An insertion is read as its table, its columns and its values. -/
theorem readAsParts_insertion (unlabelled : table.label = none) (named : columns ≠ []) {values : Sql}
    {index : Nat} {parts : List Part} (read : ReadAsParts (lexemesFrom dialect index values) parts) :
    ∃ inside, inside ≠ [] ∧ dialect.width? inside = some columns.length ∧
      ReadAsParts (lexemesFrom dialect index (insertionSql dialect table columns values))
        (.plain (.word .into) :: .plain (.name table.name) :: .group inside ::
          .plain (.word .values) :: parts) := by
  obtain ⟨inside, some, wide, list⟩ := readAsParts_columns dialect named index
  refine ⟨inside, some, wide, ?_⟩
  have silent : bindings (parenthesized (commas (columns.map fun column => [.name column]))) = [] := by
    simp [List.flatMap_map]
  have pieces : insertionSql dialect table columns values =
      [.word .into, .space] ++ (table.sql dialect ++ ([.space] ++
        (parenthesized (commas (columns.map fun column => [.name column])) ++
          ([.space, .word .values, .space] ++ values)))) := by
    simp [insertionSql, Dialect.insertion]
  have split : lexemesFrom dialect index (insertionSql dialect table columns values) =
      .word .into :: (lexemesFrom dialect index (table.sql dialect) ++
        (lexemesFrom dialect index (parenthesized (commas (columns.map fun column => [.name column]))) ++
          .word .values :: lexemesFrom dialect index values)) := by
    rw [pieces]
    simp only [lexemesFrom_append, bindings_table, silent, bindings_space, bindings_word, bindings_nil,
      List.length_nil, Nat.add_zero]
    rfl
  rw [split]
  have behind := list.append (read.behind_word .values)
  rw [lexemes_parenthesized] at behind ⊢
  exact (ReadAsParts.behind_table unlabelled index (by simp) behind).behind_word .into

/-- Insertions of one row each are counted. -/
theorem readAsParts_insertions (unlabelled : table.label = none) (named : columns ≠ [])
    {rows : List (List (Option Value))} (wide : ∀ row ∈ rows, row.length = columns.length)
    (index : Nat) :
    ∃ parts, ReadAsParts (lexemesFrom dialect index ((rows.map (Insert.tupleSql dialect)).flatMap
        fun tuple => .space :: insertionSql dialect table columns tuple)) parts ∧
      ∀ behind, dialect.countInsertions? (parts ++ behind) =
        (dialect.countInsertions? behind).map (· + rows.length) := by
  induction rows generalizing index with
  | nil => exact ⟨[], readAsParts_nil, fun behind => by simp⟩
  | cons row rest ih =>
    obtain ⟨own, others⟩ := List.forall_mem_cons.1 wide
    obtain ⟨tuple, fits, values⟩ := readAsParts_tuple dialect row index
    rw [own] at fits
    obtain ⟨inside, _, width, insertion⟩ := readAsParts_insertion dialect unlabelled named values
    obtain ⟨parts, later, counted⟩ := ih others (index + (bindings
      (.space :: insertionSql dialect table columns (Insert.tupleSql dialect row))).length)
    refine ⟨.plain (.word .into) :: .plain (.name table.name) :: .group inside ::
      .plain (.word .values) :: tuple :: parts, ?_, fun behind => ?_⟩
    · rw [List.map_cons, List.flatMap_cons, lexemesFrom_append]
      exact insertion.append later
    · simp only [List.cons_append]
      rw [Dialect.countInsertions?, counted, width]
      simp [fits, Function.comp_def, Nat.add_assoc]

/-- Several rows of Oracle are insertions in front of the row that is selected for them. -/
theorem parts?_insertAll (unlabelled : table.label = none) (named : columns ≠ [])
    {rows : List (List (Option Value))} (wide : ∀ row ∈ rows, row.length = columns.length)
    (several : 1 < rows.length) (index : Nat) :
    ∃ parts, parts? (lexemesFrom .oracle index (Insert.sql .oracle ⟨table, columns, rows, none, false⟩)) =
        some (.plain (.word .insert) :: .plain (.word .all) :: parts) ∧
      Dialect.countInsertions? .oracle parts = some rows.length := by
  have shape : Insert.sql .oracle ⟨table, columns, rows, none, false⟩ =
      .word .insert :: .space :: .word .all ::
        (((rows.map (Insert.tupleSql .oracle)).flatMap fun tuple =>
            .space :: insertionSql .oracle table columns tuple) ++
          [.space, .word .select, .space, .number 1, .space, .word .from, .space, .word .dual]) := by
    simp [Insert.sql, named, Dialect.insertRows, several, returningSql, words, Text.intersperse,
      insertionSql]
  obtain ⟨parts, insertions, counted⟩ := readAsParts_insertions .oracle unlabelled named wide index
  have selection : ReadAsParts [.word .select, .number 1, .word .from, .word .dual]
      [.plain (.word .select), .plain (.number 1), .plain (.word .from), .plain (.word .dual)] :=
    (((readAsParts_nil.behind_word .dual).behind_word .from).behind (by simp) rfl).behind_word .select
  have read := (((insertions.append selection).behind_word .all).behind_word .insert).whole
  have total := counted
    [.plain (.word .select), .plain (.number 1), .plain (.word .from), .plain (.word .dual)]
  rw [shape, lexemesFrom, lexemesFrom, lexemesFrom, lexemesFrom_append]
  exact ⟨_, read, by simpa [Dialect.countInsertions?] using total⟩

/-- All other rows are tuples behind one insertion. -/
theorem parts?_insertInto (unlabelled : table.label = none) (named : columns ≠ [])
    {rows : List (List (Option Value))} (filled : rows ≠ [])
    (wide : ∀ row ∈ rows, row.length = columns.length)
    (together : ¬ (dialect = .oracle ∧ 1 < rows.length)) (index : Nat) :
    ∃ inside tuples, inside ≠ [] ∧
      parts? (lexemesFrom dialect index (Insert.sql dialect ⟨table, columns, rows, none, false⟩)) =
        some (.plain (.word .insert) :: .plain (.word .into) :: .plain (.name table.name) ::
          .group inside :: .plain (.word .values) :: tuples) ∧
      dialect.width? inside = some columns.length ∧
      dialect.countTuples? columns.length tuples = some rows.length := by
  have shape : Insert.sql dialect ⟨table, columns, rows, none, false⟩ =
      .word .insert :: .space ::
        insertionSql dialect table columns (commas (rows.map (Insert.tupleSql dialect))) := by
    simp [Insert.sql, named, Dialect.insertRows, together, returningSql, insertionSql]
  obtain ⟨tuples, counted, values⟩ := readAsParts_tuples dialect filled wide index
  obtain ⟨inside, listed, width, insertion⟩ := readAsParts_insertion dialect unlabelled named values
  refine ⟨inside, tuples, listed, ?_, width, counted⟩
  rw [shape]
  exact (insertion.behind_word .insert).whole

/-- Rows over some columns are all counted in the text of their insert. -/
theorem rowsAdded?_insert {insert : Insert} (unlabelled : insert.table.label = none)
    (named : insert.columns ≠ []) (filled : insert.rows ≠ [])
    (wide : ∀ row ∈ insert.rows, row.length = insert.columns.length)
    (silent : insert.returning = none ∧ insert.selectsKey = false) (index : Nat) :
    dialect.rowsAdded? (lexemesFrom dialect index (insert.sql dialect)) = some insert.rows.length ∧
      isColumnless (lexemesFrom dialect index (insert.sql dialect)) = false := by
  obtain ⟨table, columns, rows, returning, selectsKey⟩ := insert
  obtain ⟨rfl, rfl⟩ := silent
  simp only at unlabelled named filled wide ⊢
  have positive : 0 < rows.length := List.length_pos_iff.2 filled
  by_cases several : dialect = .oracle ∧ 1 < rows.length
  · obtain ⟨rfl, several⟩ := several
    obtain ⟨parts, read, counted⟩ := parts?_insertAll unlabelled named wide several index
    rw [Dialect.rowsAdded?, isColumnless, read]
    simp [counted, positive]
  · obtain ⟨inside, tuples, listed, read, width, counted⟩ :=
      parts?_insertInto dialect unlabelled named filled wide several index
    have alone : dialect ≠ .oracle ∨ rows.length = 1 := by
      by_cases oracle : dialect = .oracle
      · have few := not_and.1 several oracle
        exact .inr (by omega)
      · exact .inl oracle
    rw [Dialect.rowsAdded?, isColumnless, read]
    cases inside with
    | nil => exact absurd rfl listed
    | cons => simp [width, counted, alone]

/-- What stands behind the table of an insert that names no column. -/
def defaultParts : Dialect → List Part
  | .mysql | .mariadb => [.group [], .plain (.word .values), .group []]
  | .postgres | .sqlServer | .oracle => [.plain (.word .default), .plain (.word .values)]

theorem readAsParts_default (unlabelled : table.label = none) (index : Nat) :
    ReadAsParts (lexemesFrom dialect index (table.sql dialect ++ dialect.defaultRow))
      (.plain (.name table.name) :: defaultParts dialect) := by
  have words : ReadAsParts [.word .default, .word .values]
      [.plain (.word .default), .plain (.word .values)] :=
    (readAsParts_nil.behind_word .values).behind_word .default
  have nothing : ReadAsParts [.mark .open, .mark .close] [.group []] :=
    readAsParts_group (List.not_mem_nil)
  have groups := nothing.append (nothing.behind_word .values)
  rw [lexemesFrom_append, bindings_table, List.length_nil, Nat.add_zero]
  cases dialect with
  | postgres | sqlServer | oracle => exact ReadAsParts.behind_table unlabelled index (by simp) words
  | mysql | mariadb => exact ReadAsParts.behind_table unlabelled index (by simp) groups

/-- Without columns, there is one row in the text of an insert, or none by the grammar of
the dialect. -/
theorem rowsAdded?_default {insert : Insert} (unlabelled : insert.table.label = none)
    (unnamed : insert.columns = []) (silent : insert.returning = none ∧ insert.selectsKey = false)
    (index : Nat) :
    dialect.rowsAdded? (lexemesFrom dialect index (insert.sql dialect)) =
        (if dialect.insertsDefaults then some 1 else none) ∧
      isColumnless (lexemesFrom dialect index (insert.sql dialect)) = true := by
  obtain ⟨table, columns, rows, returning, selectsKey⟩ := insert
  obtain ⟨rfl, rfl⟩ := silent
  cases unnamed
  have shape : Insert.sql dialect ⟨table, [], rows, none, false⟩ =
      .word .insert :: .space :: .word .into :: .space :: (table.sql dialect ++ dialect.defaultRow) := by
    simp [Insert.sql, returningSql, words, Text.intersperse]
  have read : parts? (lexemesFrom dialect index (Insert.sql dialect ⟨table, [], rows, none, false⟩)) =
      some (.plain (.word .insert) :: .plain (.word .into) :: .plain (.name table.name) ::
        defaultParts dialect) := by
    rw [shape]
    have target := readAsParts_default dialect unlabelled index
    exact ((target.behind_word .into).behind_word .insert).whole
  rw [Dialect.rowsAdded?, isColumnless, read]
  cases dialect <;> exact ⟨rfl, rfl⟩

end Sql

/-! ## Bulk creates -/

theorem values_eq_entries (rows : List Row) :
    rows.map Row.values = (rows.map (Record.mapValues Value.ofJson)).map Record.entries := by
  rw [List.map_map]
  rfl

/-- There are no columns if no row has a field. -/
theorem columns_eq_nil {insert : Insert} {rows : List Row} :
    (insert.ofRows (rows.map Row.values)).columns = [] ↔ ∀ row ∈ rows, row.keys = [] := by
  have columns : (insert.ofRows (rows.map Row.values)).columns =
      ((rows.map (Record.mapValues Value.ofJson)).flatMap Record.keys).eraseDups := by
    rw [← Insert.columnsOf_entries, ← values_eq_entries]
    rfl
  have same (row : Row) : (row.mapValues Value.ofJson).keys = row.keys := by
    simp [Record.keys, Record.mapValues, Function.comp_def]
  rw [columns, List.eq_nil_iff_forall_not_mem]
  simp only [List.mem_eraseDups, List.mem_flatMap, List.mem_map, not_exists, not_and]
  refine ⟨fun unnamed row member => ?_, fun empty column cells => ?_⟩
  · rw [← same]
    exact List.eq_nil_iff_forall_not_mem.2 fun column => unnamed column _ ⟨row, member, rfl⟩
  · rintro ⟨row, member, rfl⟩
    simp [same, empty row member]

/-- Every row has a cell for each column. -/
theorem length_line {insert : Insert} {rows : List Row} :
    ∀ line ∈ (insert.ofRows (rows.map Row.values)).rows,
      line.length = (insert.ofRows (rows.map Row.values)).columns.length := by
  rw [values_eq_entries, Insert.rows_ofRows]
  simp [Insert.ofRows]

theorem bulkCreate_ok {compiler : Compiler} {query : Query} {compiled : Compiled}
    (bulk : query.operation = .bulkCreate) (compiles : compiler.compile query = .ok compiled) :
    ∃ rows, query.body = some (.rows rows) ∧ rows ≠ [] ∧
      scan compiler.dialect compiled.text.toList = some (lexemesFrom compiler.dialect 1
        (Insert.sql compiler.dialect ((Insert.into query.target).ofRows (rows.map Row.values)))) := by
  obtain ⟨plan, planned, rfl, legible⟩ := compile_ok compiles
  unfold Query.plan at planned
  rw [bulk] at planned
  obtain ⟨write, built, rfl⟩ := Query.ok_of_map_ok planned
  obtain ⟨rows, body, several, rfl⟩ := Query.bulkInsert_ok built
  exact ⟨rows, body, several, scan_write _ legible⟩

/-- The text of a bulk create, read by the grammar of the dialect, adds as many rows as the
query has, also those without a field, and names their columns. This is so if a row has a
field at all. If none has one, no column is named, and whatever the number of the rows, the
text adds one, or on Oracle is no insert. -/
theorem bulk_create_adds_its_rows {compiler : Compiler} {query : Query} {compiled : Compiled}
    (bulk : query.operation = .bulkCreate) (compiles : compiler.compile query = .ok compiled) :
    ∃ rows lexemes, query.body = some (.rows rows) ∧ rows ≠ [] ∧
      scan compiler.dialect compiled.text.toList = some lexemes ∧
      ((∃ row ∈ rows, row.keys ≠ []) →
        compiler.dialect.rowsAdded? lexemes = some rows.length ∧ isColumnless lexemes = false) ∧
      ((∀ row ∈ rows, row.keys = []) →
        compiler.dialect.rowsAdded? lexemes =
            (if compiler.dialect.insertsDefaults then some 1 else none) ∧
          isColumnless lexemes = true) := by
  obtain ⟨rows, body, some, scanned⟩ := bulkCreate_ok bulk compiles
  refine ⟨rows, _, body, some, scanned, fun filled => ?_, fun empty => ?_⟩
  · obtain ⟨row, member, named⟩ := filled
    have count : ((Insert.into query.target).ofRows (rows.map Row.values)).rows.length = rows.length := by
      simp [Insert.ofRows]
    rw [← count]
    refine rowsAdded?_insert compiler.dialect rfl (fun unnamed => ?_) ?_ length_line ⟨rfl, rfl⟩ 1
    · exact named (columns_eq_nil.1 unnamed row member)
    · rwa [← List.length_pos_iff, count, List.length_pos_iff]
  · exact rowsAdded?_default compiler.dialect rfl (columns_eq_nil.2 empty) ⟨rfl, rfl⟩ 1

/-- Persons of different shapes, one of them without a field. -/
def mixedPersons : Query :=
  { Query.plain "persons" .bulkCreate with
    body := some (.rows [.ofList [("name", .string "Ann")], .empty,
      .ofList [("age", .number (.int 30 (by decide))), ("name", .null)]]) }

theorem three_mixed_persons_are_added :
    mixedPersons.operation = .bulkCreate ∧
      ∃ compiled, (Compiler.of .oracle 5000).compile mixedPersons = .ok compiled ∧
        ∃ lexemes, scan .oracle compiled.text.toList = some lexemes ∧
          Dialect.oracle.rowsAdded? lexemes = some 3 ∧ isColumnless lexemes = false := by
  have compiles : (Compiler.of .oracle 5000).compile mixedPersons = .ok _ := rfl
  obtain ⟨rows, lexemes, body, _, scanned, filled, _⟩ := bulk_create_adds_its_rows rfl compiles
  cases body
  exact ⟨rfl, _, compiles, lexemes, scanned, filled ⟨_, List.mem_cons_self, by decide⟩⟩

/-- Two persons without a field. -/
def blankPersons : Query :=
  { Query.plain "persons" .bulkCreate with body := some (.rows [.empty, .empty]) }

/-- Not every bulk create adds as many rows as it has, and Oracle is given an insert
without columns, which it cannot run. -/
theorem blank_persons_are_lost :
    (∃ compiled lexemes, (Compiler.of .mysql 5000).compile blankPersons = .ok compiled ∧
      compiled.text = "INSERT INTO `persons` () VALUES ()" ∧
      scan .mysql compiled.text.toList = some lexemes ∧ Dialect.mysql.rowsAdded? lexemes = some 1) ∧
    (∃ compiled lexemes, (Compiler.of .oracle 5000).compile blankPersons = .ok compiled ∧
      compiled.text = "INSERT INTO \"persons\" DEFAULT VALUES" ∧
      scan .oracle compiled.text.toList = some lexemes ∧ isColumnless lexemes = true ∧
      Dialect.oracle.insertsDefaults = false) ∧
    ¬ ∀ (compiler : Compiler) (query : Query) (compiled : Compiled) rows lexemes,
      query.operation = .bulkCreate → compiler.compile query = .ok compiled →
      query.body = some (.rows rows) → scan compiler.dialect compiled.text.toList = some lexemes →
      compiler.dialect.rowsAdded? lexemes = some rows.length := by
  let blank := (Insert.into blankPersons.target).ofRows ([Record.empty, Record.empty].map Row.values)
  have scans (dialect : Dialect) : ∃ compiled,
      (Compiler.of dialect 5000).compile blankPersons = .ok compiled ∧
      scan dialect compiled.text.toList = some (lexemesFrom dialect 1 (blank.sql dialect)) := by
    obtain ⟨_, body, _, scanned⟩ := @bulkCreate_ok (.of dialect 5000) blankPersons _ rfl rfl
    cases body
    exact ⟨_, rfl, scanned⟩
  have lost (dialect : Dialect) := @rowsAdded?_default dialect blank rfl rfl ⟨rfl, rfl⟩ 1
  obtain ⟨_, written, mysql⟩ := scans .mysql
  cases written
  obtain ⟨_, written, oracle⟩ := scans .oracle
  cases written
  refine ⟨⟨_, _, rfl, by decide +kernel, mysql, (lost .mysql).1⟩,
    ⟨_, _, rfl, by decide +kernel, oracle, (lost .oracle).2, rfl⟩, fun claimed => ?_⟩
  have two := claimed (.of .mysql 5000) blankPersons _ _ _ rfl rfl rfl mysql
  have one := two.symm.trans (lost .mysql).1
  cases one

end Polyquery
