import Polyquery.Proofs.Scanning

/-! What is written legibly is read back. Tokens that a reader cannot tell apart
when they touch must not touch; then scanning the text of the tokens gives the
tokens again, names as they were before quoting and placeholders with their
numbers. -/
namespace Polyquery

/-- The number that a reader finds in a placeholder. -/
def Dialect.placeholderNumber (dialect : Dialect) (index : Nat) : Option Nat :=
  match dialect with
  | .postgres | .sqlServer | .oracle => some index
  | .mysql | .mariadb => none

namespace Sql
open Text

/-- Tokens that would run into each other: all but marks and blanks. -/
def Token.isAtom : Token → Bool
  | .mark _ | .space => false
  | .word _ | .number _ | .name _ | .bound _ => true

/-- Numbers are of the given ones, and where brackets quote names there are no
brackets of another meaning. -/
def Token.Admissible (dialect : Dialect) (numbers : List Nat) : Token → Prop
  | .mark .openBracket | .mark .closeBracket => dialect ≠ .sqlServer
  | .number n => n ∈ numbers
  | _ => True

/-- Admissible tokens of which no two atoms touch. The flag tells whether an
atom stands right in front of the first one. -/
def Legible (dialect : Dialect) (numbers : List Nat) : Bool → Sql → Prop
  | _, [] => True
  | behindAtom, token :: rest =>
    token.Admissible dialect numbers ∧ (token.isAtom = true → behindAtom = false) ∧
      Legible dialect numbers token.isAtom rest

/-- What a reader finds in the text of a token; nothing in a blank. -/
def Token.lexeme? (dialect : Dialect) (index : Nat) : Token → Option Lexeme
  | .word w => some (.word w)
  | .mark m => some (.mark m)
  | .space => none
  | .number n => some (.number n)
  | .name s => some (.name s)
  | .bound _ => some (.placeholder (dialect.placeholderNumber index))

/-- The lexemes of tokens whose placeholders are numbered from the given one on. -/
def lexemesFrom (dialect : Dialect) : Nat → Sql → List Lexeme
  | _, [] => []
  | index, token :: rest =>
    (token.lexeme? dialect index).toList ++ lexemesFrom dialect (index + token.uses) rest

/-- A text that continues no word, no quoted identifier and no mark in front of
it. -/
def Apart (dialect : Dialect) (text : List Char) : Prop :=
  ∀ c ∈ text.head?, isWordChar c = false ∧ c ≠ dialect.closeQuote ∧ c ≠ '|'

/-- The text is read as these lexemes, whatever stands apart behind it. -/
def Scans (dialect : Dialect) (text : List Char) (lexemes : List Lexeme) : Prop :=
  ∀ behind, Apart dialect behind →
    scan dialect (text ++ behind) = (scan dialect behind).map (lexemes ++ ·)

variable {dialect : Dialect} {numbers : List Nat}

/-! ## Single lexemes -/

theorem takeQuoted_doubled {quote : Char} {behind : List Char} (name : List Char)
    (apart : ∀ c ∈ behind.head?, c ≠ quote) :
    takeQuoted quote (Dialect.doubled quote name ++ quote :: behind) = some (name, behind) := by
  induction name with
  | nil =>
    cases behind with
    | nil => simp [Dialect.doubled, takeQuoted]
    | cons c rest => simp [Dialect.doubled, takeQuoted, apart c rfl]
  | cons c rest ih =>
    by_cases same : c = quote
    · simp [Dialect.doubled, takeQuoted, same, ih]
    · cases shape : Dialect.doubled quote rest ++ quote :: behind with
      | nil => simp at shape
      | cons d more =>
        rw [shape] at ih
        simp [Dialect.doubled, takeQuoted, same, shape, ih]

theorem isWordChar_of_isDigit {c : Char} (digit : c.isDigit = true) : isWordChar c = true := by
  simp [isWordChar, Char.isAlphanum, digit]

theorem toDigits_all_isDigit (n : Nat) : (Nat.toDigits 10 n).all isDigit = true := by
  rw [List.all_eq_true]
  intro c inside
  have digit : c.isDigit = true := Nat.isDigit_of_mem_toDigits (by decide) (by decide) inside
  simpa [Char.isDigit, isDigit, Char.le_def] using digit

theorem toDigits_all_isWordChar (n : Nat) : ∀ c ∈ Nat.toDigits 10 n, isWordChar c = true :=
  fun _ inside => isWordChar_of_isDigit (Nat.isDigit_of_mem_toDigits (by decide) (by decide) inside)

theorem digitsValue_toDigits (n : Nat) : digitsValue (Nat.toDigits 10 n) = n := by
  have value := Nat.ofDigitChars_toDigits (b := 10) (n := n) (by decide) (by decide)
  rw [Nat.ofDigitChars_eq_foldl] at value
  simpa [digitsValue, digitValue, Nat.mul_comm] using value

theorem takeNumber?_toDigits (n : Nat) {behind : List Char} (apart : Apart dialect behind) :
    takeNumber? (Nat.toDigits 10 n ++ behind) = some (.placeholder (some n), behind) := by
  obtain ⟨run, rest⟩ := takeWhile_run (toDigits_all_isWordChar n) fun c head => (apart c head).1
  simp [takeNumber?, run, rest, toDigits_all_isDigit, digitsValue_toDigits, Nat.toDigits_ne_nil]

theorem takeMark?_mark (m : Mark) (behind : List Char) :
    takeMark? (m.text.toList ++ behind) = some (.mark m, behind) := by
  cases m <;> rfl

theorem word_chars (w : Word) :
    (∀ c ∈ w.text.toList, isWordChar c = true) ∧ w.text.toList ≠ [] ∧
      Lexeme.ofRun? w.text.toList = some (.word w) := by
  cases w <;> exact ⟨List.all_eq_true.1 rfl, List.cons_ne_nil _ _, rfl⟩

/-- No placeholder begins like a mark. -/
theorem takeMark?_placeholder (index : Nat) {behind : List Char} (apart : Apart dialect behind) :
    takeMark? (dialect.placeholder index ++ behind) = none := by
  cases dialect with
  | postgres => rfl
  | sqlServer => rfl
  | mysql | mariadb =>
    cases behind with
    | nil => rfl
    | cons c rest =>
      have other : c ≠ '|' := (apart c rfl).2.2
      simp [Dialect.placeholder, takeMark?, marks, Mark.text, List.isPrefixOf, other.symm]
  | oracle =>
    cases digits : Nat.toDigits 10 index with
    | nil => exact absurd digits Nat.toDigits_ne_nil
    | cons c rest =>
      have digit : c.isDigit = true :=
        Nat.isDigit_of_mem_toDigits (n := index) (by decide) (by decide) (digits ▸ List.mem_cons_self)
      have other : c ≠ ':' := by
        rintro rfl
        exact absurd digit (by decide)
      simp [Dialect.placeholder, digits, takeMark?, marks, Mark.text, List.isPrefixOf, other.symm]

theorem takePlaceholder?_placeholder (index : Nat) {behind : List Char}
    (apart : Apart dialect behind) :
    takePlaceholder? dialect (dialect.placeholder index ++ behind) =
      some (.placeholder (dialect.placeholderNumber index), behind) := by
  cases dialect with
  | mysql => rfl
  | mariadb => rfl
  | postgres => exact takeNumber?_toDigits index apart
  | sqlServer => exact takeNumber?_toDigits index apart
  | oracle => exact takeNumber?_toDigits index apart

theorem openQuote_not_word (dialect : Dialect) : isWordChar dialect.openQuote = false := by
  cases dialect <;> rfl

/-- A run of word characters is taken as a whole. -/
theorem takeLexeme?_run {run behind : List Char} {lexeme : Lexeme}
    (inside : ∀ c ∈ run, isWordChar c = true) (nonempty : run ≠ [])
    (known : Lexeme.ofRun? run = some lexeme) (apart : Apart dialect behind) :
    takeLexeme? dialect (run ++ behind) = some (lexeme, behind) := by
  cases run with
  | nil => exact absurd rfl nonempty
  | cons c rest =>
    have first : isWordChar c = true := inside c (by simp)
    have unquoted : c ≠ dialect.openQuote := by
      rintro rfl
      rw [openQuote_not_word] at first
      cases first
    have restInside : ∀ c ∈ rest, isWordChar c = true := fun c member => inside c (by simp [member])
    obtain ⟨run, remaining⟩ := takeWhile_run restInside fun c head => (apart c head).1
    simp only [List.cons_append, takeLexeme?, unquoted, ↓reduceIte, first, run, remaining, known,
      Option.map_some]

theorem takeLexeme?_name (name : String) {behind : List Char} (apart : Apart dialect behind) :
    takeLexeme? dialect (dialect.quoteName name ++ behind) = some (.name name, behind) := by
  have inside := takeQuoted_doubled name.toList fun c head => (apart c head).2.1
  simp [takeLexeme?, Dialect.quoteName, inside]

theorem takeLexeme?_mark {m : Mark} (admissible : (Token.mark m).Admissible dialect numbers)
    (behind : List Char) :
    takeLexeme? dialect (m.text.toList ++ behind) = some (.mark m, behind) := by
  have found := takeMark?_mark m behind
  cases shape : m.text.toList ++ behind with
  | nil => cases m <;> cases shape
  | cons c rest =>
    have unquoted : c ≠ dialect.openQuote := by
      cases m <;> cases shape <;> cases dialect <;>
        first | decide | exact absurd rfl admissible
    have unworded : isWordChar c = false := by cases m <;> cases shape <;> rfl
    rw [shape] at found
    simp [takeLexeme?, unquoted, unworded, found]

theorem takeLexeme?_placeholder (index : Nat) {behind : List Char} (apart : Apart dialect behind) :
    takeLexeme? dialect (dialect.placeholder index ++ behind) =
      some (.placeholder (dialect.placeholderNumber index), behind) := by
  have unmarked := takeMark?_placeholder index apart
  have found := takePlaceholder?_placeholder index apart
  cases dialect <;>
    simp_all [takeLexeme?, Dialect.placeholder, Dialect.openQuote, isWordChar, Char.isAlphanum]

/-! ## Whole texts -/

/-- Every token but a blank is read as its lexeme, provided that an atom stands
apart from what follows. -/
theorem takeLexeme?_write {token : Token} {lexeme : Lexeme} {index : Nat} {behind : List Char}
    (admissible : token.Admissible dialect numbers)
    (read : token.lexeme? dialect index = some lexeme)
    (apart : token.isAtom = true → Apart dialect behind) :
    takeLexeme? dialect (token.write dialect index ++ behind) = some (lexeme, behind) := by
  cases token with
  | space => cases read
  | word w =>
    cases read
    obtain ⟨inside, nonempty, known⟩ := word_chars w
    exact takeLexeme?_run inside nonempty known (apart rfl)
  | mark m =>
    cases read
    exact takeLexeme?_mark admissible behind
  | number n =>
    cases read
    have known : Lexeme.ofRun? (Nat.toDigits 10 n) = some (.number n) := by
      simp [Lexeme.ofRun?, toDigits_all_isDigit, digitsValue_toDigits]
    exact takeLexeme?_run (toDigits_all_isWordChar n) Nat.toDigits_ne_nil known (apart rfl)
  | name s =>
    cases read
    exact takeLexeme?_name s (apart rfl)
  | bound v =>
    cases read
    exact takeLexeme?_placeholder index (apart rfl)

theorem scan_nil : scan dialect [] = some [] := by rw [scan]

theorem scan_blank (text : List Char) : scan dialect (' ' :: text) = scan dialect text := by
  rw [scan]
  rfl

/-- Reading goes on behind the first lexeme. -/
theorem scan_lexeme {text behind : List Char} {lexeme : Lexeme}
    (taken : takeLexeme? dialect text = some (lexeme, behind)) :
    scan dialect text = (scan dialect behind).map (lexeme :: ·) := by
  cases text with
  | nil => cases taken
  | cons c rest =>
    have notBlank : c ≠ ' ' := by
      rintro rfl
      have none : takeLexeme? dialect (' ' :: rest) = none := by cases dialect <;> rfl
      rw [none] at taken
      cases taken
    rw [scan]
    simp only [notBlank, ↓reduceIte]
    split
    · next found =>
      rw [taken] at found
      cases found
      rfl
    · next found =>
      rw [taken] at found
      cases found

theorem apart_nil : Apart dialect [] := by
  intro c head
  cases head

theorem apart_blank (text : List Char) : Apart dialect (' ' :: text) := by
  intro c head
  cases head
  cases dialect <;> decide

theorem apart_mark {m : Mark} (admissible : (Token.mark m).Admissible dialect numbers)
    (behind : List Char) : Apart dialect (m.text.toList ++ behind) := by
  intro c head
  cases m <;> cases head <;> cases dialect <;> first | decide | exact absurd rfl admissible

/-- Legible tokens that may stand behind an atom do not run into it. -/
theorem Legible.apart {sql : Sql} {index : Nat} {behind : List Char}
    (legible : Legible dialect numbers true sql) (apart : Apart dialect behind) :
    Apart dialect (writeFrom dialect index sql ++ behind) := by
  cases sql with
  | nil => exact apart
  | cons token rest =>
    obtain ⟨admissible, separate, _⟩ := legible
    rw [writeFrom, List.append_assoc]
    cases token with
    | space => exact apart_blank _
    | mark m => exact apart_mark admissible _
    | word | number | name | bound => cases separate rfl

/-- Reading the text of legible tokens gives their lexemes, whatever stands
apart behind them. -/
theorem Legible.scans {sql : Sql} {behindAtom : Bool} {index : Nat}
    (legible : Legible dialect numbers behindAtom sql) :
    Scans dialect (writeFrom dialect index sql) (lexemesFrom dialect index sql) := by
  intro behind apart
  induction sql generalizing behindAtom index with
  | nil => simp [writeFrom, lexemesFrom]
  | cons token rest ih =>
    obtain ⟨admissible, _, following⟩ := legible
    have remaining : scan dialect (writeFrom dialect (index + token.uses) rest ++ behind) = _ :=
      ih following
    rw [writeFrom, lexemesFrom, List.append_assoc]
    cases read : token.lexeme? dialect index with
    | none =>
      cases token with
      | space => simpa [Token.write, scan_blank] using remaining
      | word | mark | number | name | bound => cases read
    | some lexeme =>
      have standsApart (atom : token.isAtom = true) :
          Apart dialect (writeFrom dialect (index + token.uses) rest ++ behind) :=
        Legible.apart (atom ▸ following) apart
      have taken := takeLexeme?_write admissible read standsApart
      rw [scan_lexeme taken, remaining, Option.map_map]
      rfl

/-- A text that is read without anything behind it. -/
theorem Scans.scan {text : List Char} {lexemes : List Lexeme} (scans : Scans dialect text lexemes) :
    Sql.scan dialect text = some lexemes := by
  have whole := scans [] apart_nil
  simpa [scan_nil] using whole

/-- Texts side by side are read one after the other, provided that the second
one stands apart. -/
theorem Scans.append {first second : List Char} {before after : List Lexeme}
    (scansFirst : Scans dialect first before) (scansSecond : Scans dialect second after)
    (apart : ∀ behind, Apart dialect behind → Apart dialect (second ++ behind)) :
    Scans dialect (first ++ second) (before ++ after) := by
  intro behind standsApart
  rw [List.append_assoc, scansFirst _ (apart behind standsApart), scansSecond behind standsApart,
    Option.map_map]
  simp [Function.comp_def]

/-! ## Pieces -/

section
variable {text : List Char} {lexemes : List Lexeme}

theorem scans_blank (scans : Scans dialect text lexemes) : Scans dialect (' ' :: text) lexemes := by
  intro behind apart
  rw [List.cons_append, scan_blank, scans behind apart]

theorem scans_mark {m : Mark} (admissible : (Token.mark m).Admissible dialect [])
    (scans : Scans dialect text lexemes) :
    Scans dialect (m.text.toList ++ text) (.mark m :: lexemes) := by
  intro behind apart
  rw [List.append_assoc, scan_lexeme (takeLexeme?_mark admissible _), scans behind apart, Option.map_map]
  rfl

/-- A word is read as one when a blank follows. -/
theorem scans_word (w : Word) (scans : Scans dialect text lexemes) :
    Scans dialect (w.text.toList ++ ' ' :: text) (.word w :: lexemes) := by
  obtain ⟨inside, nonempty, known⟩ := word_chars w
  intro behind apart
  have taken : takeLexeme? dialect (w.text.toList ++ (' ' :: text ++ behind)) = _ :=
    takeLexeme?_run inside nonempty known (apart_blank _)
  rw [List.append_assoc, scan_lexeme taken, List.cons_append, scan_blank, scans behind apart,
    Option.map_map]
  rfl

theorem scans_nil : Scans dialect [] [] := by
  intro behind _
  simp

end

theorem lexemesFrom_append (index : Nat) (a b : Sql) :
    lexemesFrom dialect index (a ++ b) =
      lexemesFrom dialect index a ++ lexemesFrom dialect (index + (bindings a).length) b := by
  induction a generalizing index with
  | nil => rfl
  | cons token rest ih =>
    simp only [List.cons_append, lexemesFrom, ih, index_behind, List.append_assoc]

end Sql
end Polyquery
