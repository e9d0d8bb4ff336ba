import Polyquery.Proofs.Alignment
import Polyquery.Proofs.Precedence

/-! Leaves as SQL reads them. Whatever a leaf compares, and in every dialect, its
text is read as one operand: its parentheses are closed, its `BETWEEN` has its
`AND`, and it begins with what an operand can begin with. -/
namespace Polyquery.Sql

variable {dialect : Dialect} {p : Predicate} {a : Sql}

/-- Tokens that mean nothing to the reader of a condition. -/
def Token.isPlain : Token → Bool
  | .word .and | .word .or | .word .between | .mark .open | .mark .close => false
  | _ => true

theorem lexeme_plain {token : Token} {index : Nat} {lexeme : Lexeme} (plain : token.isPlain = true)
    (read : token.lexeme? dialect index = some lexeme) : lexeme.isPlain = true := by
  cases token with
  | space => cases read
  | number | name | bound =>
    cases read
    rfl
  | word w =>
    cases read
    cases w <;> first | rfl | cases plain
  | mark m =>
    cases read
    cases m <;> first | rfl | cases plain

theorem lexemes_plain {index : Nat} (plain : a.all Token.isPlain = true) :
    Balanced (lexemesFrom dialect index a) := by
  refine balanced_plain ?_
  induction a generalizing index with
  | nil => simp [lexemesFrom]
  | cons token rest ih =>
    rw [List.all_cons, Bool.and_eq_true] at plain
    intro lexeme found
    rw [lexemesFrom, List.mem_append] at found
    rcases found with here | later
    · exact lexeme_plain plain.1 (by simpa using here)
    · exact ih plain.2 lexeme later

theorem plain_intersperse {separator : Sql} {parts : List Sql}
    (separatorPlain : separator.all Token.isPlain = true)
    (partsPlain : ∀ part ∈ parts, part.all Token.isPlain = true) :
    (Text.intersperse separator parts).all Token.isPlain = true := by
  induction parts with
  | nil => rfl
  | cons first others ih =>
    have firstPlain := partsPlain first (by simp)
    have othersPlain := ih fun part member => partsPlain part (by simp [member])
    cases others with
    | nil => exact firstPlain
    | cons second more =>
      rw [Text.intersperse, List.all_append, List.all_append, firstPlain, separatorPlain, othersPlain]
      · rfl
      · simp

theorem boundList_plain (values : List Value) : (boundList values).all Token.isPlain = true := by
  refine plain_intersperse rfl fun part member => ?_
  obtain ⟨v, _, rfl⟩ := List.mem_map.1 member
  rfl

/-- A path begins with a name, and all of it is plain. -/
theorem path_plain (name : String) :
    ∃ s rest, path name = .name s :: rest ∧ rest.all Token.isPlain = true := by
  have plain : (path name).all Token.isPlain = true := by
    refine plain_intersperse rfl fun part member => ?_
    obtain ⟨segment, _, rfl⟩ := List.mem_map.1 member
    rfl
  have begins : ∃ s rest, path name = .name s :: rest := by
    unfold path
    cases shape : Text.segments '.' name.toList with
    | nil => exact absurd shape (Text.segments_ne_nil _ _)
    | cons first others =>
      cases others with
      | nil => exact ⟨_, [], rfl⟩
      | cons second more => exact ⟨_, _, rfl⟩
  obtain ⟨s, rest, shape⟩ := begins
  rw [shape, List.all_cons, Bool.and_eq_true] at plain
  exact ⟨s, rest, shape, plain.2⟩

theorem column_plain (ref : ColumnRef) :
    ∃ s rest, ref.sql = .name s :: rest ∧ rest.all Token.isPlain = true := by
  obtain ⟨table, column⟩ := ref
  cases table with
  | none => exact path_plain column
  | some table =>
    obtain ⟨s, rest, shape, plain⟩ := path_plain table
    obtain ⟨t, more, columnShape, columnPlain⟩ := path_plain column
    refine ⟨s, rest ++ .mark .dot :: path column, by simp [ColumnRef.sql, shape], ?_⟩
    rw [List.all_append, plain, List.all_cons, columnShape, List.all_cons, columnPlain]
    rfl

/-- A leaf that begins with a column. -/
theorem reads_column (column : ColumnRef) {index : Nat} {tail : Sql}
    (balanced : Balanced (lexemesFrom dialect index tail)) :
    Reads (lexemesFrom dialect index (column.sql ++ tail))
      (.leaf (lexemesFrom dialect index (column.sql ++ tail))) := by
  obtain ⟨s, rest, shape, plain⟩ := column_plain column
  have silent : bindings (.name s :: rest) = [] := shape ▸ bindings_column column
  have split : lexemesFrom dialect index (column.sql ++ tail) =
      .name s :: (lexemesFrom dialect index rest ++ lexemesFrom dialect index tail) := by
    rw [lexemesFrom_append, shape, silent]
    rfl
  rw [split]
  exact reads_balanced rfl (by simp) ((lexemes_plain plain).append balanced)

theorem lexemes_parenthesized (index : Nat) (inner : Sql) :
    lexemesFrom dialect index (parenthesized inner) =
      .mark .open :: lexemesFrom dialect index inner ++ [.mark .close] := by
  have opened : lexemesFrom dialect index (.mark .open :: inner) =
      .mark .open :: lexemesFrom dialect index inner := rfl
  rw [parenthesized, lexemesFrom_append, opened]
  rfl

/-- A leaf that begins with a function of plain arguments. -/
theorem reads_call {w : Word} {index : Nat} {inner tail : Sql}
    (wordPlain : (Token.word w).isPlain = true) (negates : w ≠ .not)
    (innerPlain : inner.all Token.isPlain = true) (tailPlain : tail.all Token.isPlain = true) :
    Reads (lexemesFrom dialect index (.word w :: (parenthesized inner ++ tail)))
      (.leaf (lexemesFrom dialect index (.word w :: (parenthesized inner ++ tail)))) := by
  have split : lexemesFrom dialect index (.word w :: (parenthesized inner ++ tail)) =
      .word w :: ((.mark .open :: lexemesFrom dialect index inner ++ [.mark .close]) ++
        lexemesFrom dialect (index + (bindings (parenthesized inner)).length) tail) := by
    rw [← lexemes_parenthesized, ← lexemesFrom_append]
    rfl
  have arguments : Balanced (.mark .open :: lexemesFrom dialect index inner ++ [.mark .close]) :=
    balanced_parenthesized (lexemes_plain innerPlain)
  have following : Balanced
      (lexemesFrom dialect (index + (bindings (parenthesized inner)).length) tail) :=
    lexemes_plain tailPlain
  have read : (Token.word w).lexeme? dialect index = some (.word w) := rfl
  rw [split]
  exact reads_balanced (lexeme_plain wordPlain read) (by simpa using negates) (arguments.append following)

theorem column_all_plain (ref : ColumnRef) : ref.sql.all Token.isPlain = true := by
  obtain ⟨s, rest, shape, plain⟩ := column_plain ref
  rw [shape, List.all_cons, plain]
  rfl

/-- Every leaf is read as one leaf. -/
theorem reads_leaf_tokens (index : Nat) (leaf : p.isLeaf = true) :
    Reads (lexemesFrom dialect index (p.sql dialect))
      (.leaf (lexemesFrom dialect index (p.sql dialect))) := by
  cases p with
  | group | not => cases leaf
  | oneOf column values =>
    cases values with
    | nil => exact reads_balanced rfl (by simp) (lexemes_plain rfl)
    | cons first rest =>
      have list : Balanced (lexemesFrom dialect index (parenthesized (boundList (first :: rest)))) := by
        rw [lexemes_parenthesized]
        exact balanced_parenthesized (lexemes_plain (boundList_plain _))
      have inList : Balanced (lexemesFrom dialect index [.space, .word .in, .space]) :=
        lexemes_plain rfl
      exact reads_column column (inList.append list)
  | compare column op value => exact reads_column column (lexemes_plain (by cases op <;> rfl))
  | between column low high => exact reads_column column (balanced_between rfl rfl)
  | isNull column negated => exact reads_column column (lexemes_plain (by cases negated <;> rfl))
  | like column pattern =>
    by_cases ignores : dialect.ignoresCase = true
    · simp only [Predicate.sql, Dialect.matching, ignores, ↓reduceIte]
      exact reads_column column (lexemes_plain rfl)
    · simp only [Predicate.sql, Dialect.matching, ignores, Bool.false_eq_true, ↓reduceIte]
      exact reads_call rfl (by simp) (column_all_plain column) rfl
  | containsJson column document => exact reads_column column (lexemes_plain rfl)
  | hasAny column values =>
    have array : ([.mark .cast, .word .jsonb, .space, .mark .hasAny, .space, .word .array,
        .mark .openBracket] ++ (boundList values ++ [.mark .closeBracket]) : Sql).all
        Token.isPlain = true := by
      rw [List.all_append, List.all_append, boundList_plain]
      rfl
    simp only [Predicate.sql, List.append_assoc]
    exact reads_column column (lexemes_plain array)
  | jsonFunction column function document =>
    have arguments : (commas [column.sql, [.bound document]]).all Token.isPlain = true := by
      refine plain_intersperse rfl fun part member => ?_
      rcases List.mem_cons.1 member with rfl | member
      · exact column_all_plain column
      · cases List.mem_singleton.1 member
        rfl
    have call : Predicate.sql dialect (.jsonFunction column function document) =
        .word function.word :: (parenthesized (commas [column.sql, [.bound document]]) ++ []) := by
      rw [Predicate.sql, List.append_nil]
    rw [call]
    exact reads_call (by cases function <;> rfl) (by cases function <;> simp [JsonFunction.word])
      arguments rfl

theorem doubled_of_not_mem {quote : Char} {name : List Char} (absent : quote ∉ name) :
    Dialect.doubled quote name = name := by
  induction name with
  | nil => rfl
  | cons c rest ih =>
    rw [List.mem_cons, not_or] at absent
    simp [Dialect.doubled, Ne.symm absent.1, ih absent.2]

theorem bracket_not_in_boundList (index : Nat) (values : List Value) :
    ']' ∉ writeFrom .sqlServer index (boundList values) := by
  have placeholder (index : Nat) : ']' ∉ Dialect.sqlServer.placeholder index := by
    have digits : ']' ∉ Nat.toDigits 10 index := fun inside =>
      absurd (toDigits_all_isWordChar index _ inside) (by decide)
    simpa [Dialect.placeholder] using digits
  induction values generalizing index with
  | nil => simp [boundList, commas, Text.intersperse, writeFrom]
  | cons first rest ih =>
    cases rest with
    | nil => simpa [boundList, commas, Text.intersperse, writeFrom, Token.write] using placeholder index
    | cons second more =>
      have others := ih (index + 1)
      simp only [boundList, commas, List.map_cons, Text.intersperse] at others ⊢
      simp [writeFrom, Token.write, Token.uses, Mark.text, placeholder, others]

/-- Where brackets quote names, what an array holds is read as one name. -/
theorem array_scans (index : Nat) (values : List Value) :
    ∃ name, Scans .sqlServer (writeFrom .sqlServer index
      (.mark .openBracket :: boundList values ++ [.mark .closeBracket])) [.name name] := by
  have undoubled := doubled_of_not_mem (bracket_not_in_boundList index values)
  refine ⟨String.ofList (writeFrom .sqlServer index (boundList values)), fun behind apart => ?_⟩
  have quoted : writeFrom .sqlServer index
      (.mark .openBracket :: boundList values ++ [.mark .closeBracket]) =
      Dialect.sqlServer.quoteName (String.ofList (writeFrom .sqlServer index (boundList values))) := by
    rw [List.cons_append, writeFrom, writeFrom_append, Dialect.quoteName, String.toList_ofList,
      Dialect.closeQuote, undoubled]
    rfl
  rw [quoted, scan_lexeme (takeLexeme?_name _ apart)]
  rfl

/-- What stands between the column and the array of a test for elements. -/
private def arrayFront : Sql :=
  [.mark .cast, .word .jsonb, .space, .mark .hasAny, .space, .word .array]

private theorem array_read (index : Nat) (column : ColumnRef) (values : List Value) :
    ∃ lexemes, Scans .sqlServer
        (writeFrom .sqlServer index ((Predicate.hasAny column values).sql .sqlServer)) lexemes ∧
      Reads lexemes (.leaf lexemes) := by
  obtain ⟨name, array⟩ := array_scans index values
  have written : writeFrom .sqlServer index ((Predicate.hasAny column values).sql .sqlServer) =
      writeFrom .sqlServer index (column.sql ++ arrayFront) ++ writeFrom .sqlServer index
        (.mark .openBracket :: boundList values ++ [.mark .closeBracket]) := by
    have regrouped : (Predicate.hasAny column values).sql .sqlServer = (column.sql ++ arrayFront) ++
        (.mark .openBracket :: boundList values ++ [.mark .closeBracket]) := by
      simp [Predicate.sql, arrayFront]
    have silent : bindings (column.sql ++ arrayFront) = [] := by simp [bindings_append, arrayFront]
    rw [regrouped, writeFrom_append, silent]
    rfl
  have frontScans : Scans .sqlServer (writeFrom .sqlServer index (column.sql ++ arrayFront))
      (lexemesFrom .sqlServer index (column.sql ++ arrayFront)) := by
    have legible : Legible .sqlServer [] false (column.sql ++ arrayFront) :=
      (legible_column column).append (by simp [arrayFront])
    exact legible.scans
  have behindFront (behind : List Char) (_ : Apart .sqlServer behind) : Apart .sqlServer
      (writeFrom .sqlServer index
        (.mark .openBracket :: boundList values ++ [.mark .closeBracket]) ++ behind) := by
    intro c head
    cases head
    decide
  have lexemes : lexemesFrom .sqlServer index (column.sql ++ (arrayFront ++ [.name name])) =
      lexemesFrom .sqlServer index (column.sql ++ arrayFront) ++ [.name name] := by
    rw [← List.append_assoc, lexemesFrom_append]
    rfl
  refine ⟨lexemesFrom .sqlServer index (column.sql ++ (arrayFront ++ [.name name])), ?_,
    reads_column column (lexemes_plain rfl)⟩
  rw [written, lexemes]
  exact frontScans.append array behindFront

/-- Every leaf is scanned and read as one leaf, in every dialect. -/
theorem leaf_read (dialect : Dialect) (index : Nat) (leaf : p.isLeaf = true) :
    ∃ lexemes, Scans dialect (writeFrom dialect index (p.sql dialect)) lexemes ∧
      Reads lexemes (.leaf lexemes) := by
  by_cases fits : p.Fits dialect
  · have legible : Legible dialect [0, 1] false (p.sql dialect) :=
      legible_leaf (by simp) (by simp) leaf fits
    exact ⟨_, legible.scans, reads_leaf_tokens index leaf⟩
  · cases p with
    | hasAny column values =>
      have brackets : dialect = .sqlServer := by simpa [Predicate.Fits] using fits
      subst brackets
      exact array_read index column values
    | _ => exact absurd trivial fits

end Polyquery.Sql
