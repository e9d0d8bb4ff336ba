import Polyquery.Sql.Write

/-! Reading SQL text the way a server does, from the left and without knowing
how it was made. A quoted identifier ends at the first closing quote that is not
doubled. What stands outside of quoted identifiers has to be a word, a mark, a
number or a placeholder of the vocabulary, each taken as long as possible. -/
namespace Polyquery.Sql
open Text

/-- What a reader finds in a text; blanks are passed over. -/
inductive Lexeme where
  | word (w : Word)
  | mark (m : Mark)
  | number (n : Nat)
  /-- A quoted identifier, without its quotes. -/
  | name (s : String)
  /-- A placeholder, with its number where the dialect writes one. -/
  | placeholder (number : Option Nat)
  deriving DecidableEq

/-- Every word. -/
def vocabulary : List Word :=
  [.all, .and, .array, .as, .ascending, .between, .by, .default, .delete, .descending, .dual,
    .fetch, .from, .id, .ilike, .in, .insert, .into, .is, .join, .jsonb, .jsonContains,
    .jsonOverlaps, .left, .like, .limit, .lower, .money, .next, .not, .null, .numeric, .offset,
    .on, .only, .or, .order, .returning, .rows, .scopeIdentity, .select, .set, .top, .update,
    .values, .where]

/-- Every mark. -/
def marks : List Mark :=
  [.open, .close, .openBracket, .closeBracket, .comma, .dot, .star, .semicolon,
    .equal, .notEqual, .less, .greater, .cast, .contains, .hasAny]

/-- The characters of words and numbers. Two such characters side by side belong
to the same word. -/
def isWordChar (c : Char) : Bool := c.isAlphanum || c == '_'

/-- The inside of a quoted identifier whose opening quote is already read, and
the text behind its closing quote. Nothing if it is never closed. -/
def takeQuoted (quote : Char) : List Char → Option (List Char × List Char)
  | [] => none
  | [c] => if c = quote then some ([], []) else none
  | c :: d :: rest =>
    if c = quote then
      if d = quote then
        (takeQuoted quote rest).map fun (inside, behind) => (quote :: inside, behind)
      else some ([], d :: rest)
    else (takeQuoted quote (d :: rest)).map fun (inside, behind) => (c :: inside, behind)

/-- A run of letters and digits is a number or a word of the vocabulary. -/
def Lexeme.ofRun? (run : List Char) : Option Lexeme :=
  if run.all isDigit then some (.number (digitsValue run))
  else (vocabulary.find? fun w => w.text.toList == run).map .word

/-- The mark with which a text begins. -/
def takeMark? (text : List Char) : Option (Lexeme × List Char) :=
  (marks.find? fun m => m.text.toList.isPrefixOf text).map fun m =>
    (.mark m, text.drop m.text.toList.length)

/-- The number of a placeholder, up to the end of its digits. -/
def takeNumber? (text : List Char) : Option (Lexeme × List Char) :=
  let run := text.takeWhile isWordChar
  if run.isEmpty || !run.all isDigit then none
  else some (.placeholder (some (digitsValue run)), text.dropWhile isWordChar)

/-- The placeholder with which a text begins, in the form of the dialect. -/
def takePlaceholder? (dialect : Dialect) (text : List Char) : Option (Lexeme × List Char) :=
  match dialect, text with
  | .postgres, '$' :: rest => takeNumber? rest
  | .oracle, ':' :: rest => takeNumber? rest
  | .sqlServer, '@' :: 'p' :: rest => takeNumber? rest
  | .mysql, '?' :: rest => some (.placeholder none, rest)
  | .mariadb, '?' :: rest => some (.placeholder none, rest)
  | _, _ => none

/-- The lexeme with which a text begins, and the text behind it. -/
def takeLexeme? (dialect : Dialect) : List Char → Option (Lexeme × List Char)
  | [] => none
  | c :: rest =>
    if c = dialect.openQuote then
      (takeQuoted dialect.closeQuote rest).map fun (inside, behind) =>
        (.name (String.ofList inside), behind)
    else if isWordChar c then
      (Lexeme.ofRun? (c :: rest.takeWhile isWordChar)).map fun lexeme =>
        (lexeme, rest.dropWhile isWordChar)
    else (takeMark? (c :: rest)).orElse fun _ => takePlaceholder? dialect (c :: rest)

/-- A closed identifier takes up some of the text. -/
theorem takeQuoted_shorter {quote : Char} {text inside behind : List Char}
    (taken : takeQuoted quote text = some (inside, behind)) : behind.length < text.length := by
  fun_induction takeQuoted quote text generalizing inside with
  | case1 => cases taken
  | case2 => simp_all
  | case3 => cases taken
  | case4 _ ih | case6 _ _ _ _ ih =>
    obtain ⟨⟨more, rest⟩, inner, shape⟩ := Option.map_eq_some_iff.1 taken
    cases shape
    have := ih inner
    simp only [List.length_cons] at this ⊢
    omega
  | case5 =>
    cases taken
    simp

private theorem dropWhile_not_longer (text : List Char) :
    (text.dropWhile isWordChar).length ≤ text.length :=
  (List.dropWhile_sublist isWordChar).length_le

private theorem takeNumber?_shorter {text behind : List Char} {lexeme : Lexeme}
    (taken : takeNumber? text = some (lexeme, behind)) : behind.length ≤ text.length := by
  simp only [takeNumber?] at taken
  split at taken
  · cases taken
  · cases taken
    exact dropWhile_not_longer text

private theorem takeMark?_shorter {text behind : List Char} {lexeme : Lexeme}
    (taken : takeMark? text = some (lexeme, behind)) : behind.length < text.length := by
  obtain ⟨m, found, shape⟩ := Option.map_eq_some_iff.1 taken
  cases shape
  have positive : 0 < m.text.toList.length := by cases m <;> decide
  have begins : m.text.toList.isPrefixOf text = true := by simpa using List.find?_some found
  have fits := (List.isPrefixOf_iff_prefix.1 begins).length_le
  rw [List.length_drop]
  omega

private theorem takePlaceholder?_shorter {dialect : Dialect} {text behind : List Char}
    {lexeme : Lexeme} (taken : takePlaceholder? dialect text = some (lexeme, behind)) :
    behind.length < text.length := by
  unfold takePlaceholder? at taken
  split at taken
  · exact Nat.lt_succ_of_le (takeNumber?_shorter taken)
  · exact Nat.lt_succ_of_le (takeNumber?_shorter taken)
  · have := takeNumber?_shorter taken
    simp only [List.length_cons]
    omega
  · cases taken
    simp
  · cases taken
    simp
  · cases taken

/-- Every lexeme takes up some of the text, so reading comes to an end. -/
theorem takeLexeme?_shorter {dialect : Dialect} {text behind : List Char} {lexeme : Lexeme}
    (taken : takeLexeme? dialect text = some (lexeme, behind)) : behind.length < text.length := by
  cases text with
  | nil => cases taken
  | cons c rest =>
    simp only [takeLexeme?] at taken
    split at taken
    · obtain ⟨⟨inside, remaining⟩, quoted, shape⟩ := Option.map_eq_some_iff.1 taken
      cases shape
      exact Nat.lt_succ_of_lt (takeQuoted_shorter quoted)
    · split at taken
      · obtain ⟨word, _, shape⟩ := Option.map_eq_some_iff.1 taken
        cases shape
        exact Nat.lt_succ_of_le (dropWhile_not_longer rest)
      · cases mark : takeMark? (c :: rest) with
        | some found =>
          rw [mark] at taken
          cases taken
          exact takeMark?_shorter mark
        | none =>
          rw [mark] at taken
          exact takePlaceholder?_shorter taken

/-- The lexemes of a text. Nothing if a quoted identifier is not closed, or if
something outside of quoted identifiers is not of the vocabulary. -/
def scan (dialect : Dialect) (text : List Char) : Option (List Lexeme) :=
  match text with
  | [] => some []
  | c :: rest =>
    if c = ' ' then scan dialect rest
    else
      match _taken : takeLexeme? dialect (c :: rest) with
      | some (lexeme, behind) => (scan dialect behind).map (lexeme :: ·)
      | none => none
termination_by text.length
decreasing_by
  · simp
  · exact takeLexeme?_shorter _taken

end Polyquery.Sql
