import Mathlib.Data.List.Basic
import Polyquery.Proofs.Reading

/-! Quoted paths read back. A reader takes a quoted identifier from the front of a text, and
after a dot it demands a further one; inside of an identifier it undoes the doubled quotes. It
needs no end mark: what it reads, and where it stops, is decided by the text alone, and the only
texts from which it takes the segments of a name are those that begin with the quoted name. -/
namespace Polyquery
open Sql Text

namespace Dialect

/-- The segments of a quoted path and the text behind it. Nothing if the text does not begin
with a closed identifier, or if what follows a dot does not. -/
def readPath? (dialect : Dialect) (text : List Char) : Option (List (List Char) × List Char) :=
  match text with
  | [] => none
  | c :: rest =>
    if c = dialect.openQuote then
      match _taken : takeQuoted dialect.closeQuote rest with
      | none => none
      | some (segment, []) => some ([segment], [])
      | some (segment, d :: more) =>
        if d = '.' then
          (dialect.readPath? more).map fun (segments, behind) => (segment :: segments, behind)
        else some ([segment], d :: more)
    else none
termination_by text.length
decreasing_by
  have shorter := takeQuoted_shorter _taken
  simp only [List.length_cons] at shorter ⊢
  omega

/-- A text that goes on neither with the identifier in front of it, as a closing quote would,
nor with a further one, as a dot would. -/
def Stops (dialect : Dialect) (text : List Char) : Prop :=
  ∀ c ∈ text.head?, c ≠ dialect.closeQuote ∧ c ≠ '.'

/-- Segments as quoted identifiers with dots between them. -/
def pathText (dialect : Dialect) (parts : List (List Char)) : List Char :=
  intersperse ['.'] (parts.map fun part => dialect.quoteName (String.ofList part))

variable {dialect : Dialect}

/-! ## Identifiers -/

theorem quoteName_ofList (part rest : List Char) :
    dialect.quoteName (String.ofList part) ++ rest =
      dialect.openQuote :: (doubled dialect.closeQuote part ++ dialect.closeQuote :: rest) := by
  simp [quoteName]

theorem dot_ne_closeQuote (dialect : Dialect) : '.' ≠ dialect.closeQuote := by
  cases dialect <;> decide

/-- What a reader takes for an identifier was written as one, and is not written on. -/
theorem written_of_takeQuoted {quote : Char} {text inside behind : List Char}
    (taken : takeQuoted quote text = some (inside, behind)) :
    text = doubled quote inside ++ quote :: behind ∧ ∀ c ∈ behind.head?, c ≠ quote := by
  fun_induction takeQuoted quote text generalizing inside with
  | case1 => cases taken
  | case2 =>
    cases taken
    simp [doubled]
  | case3 => cases taken
  | case4 rest ih =>
    obtain ⟨⟨more, left⟩, inner, shape⟩ := Option.map_eq_some_iff.1 taken
    cases shape
    obtain ⟨written, ends⟩ := ih inner
    exact ⟨by simp [doubled, written], ends⟩
  | case5 d rest other =>
    cases taken
    refine ⟨rfl, ?_⟩
    rintro c ⟨⟩
    exact other
  | case6 c d rest other ih =>
    obtain ⟨⟨more, left⟩, inner, shape⟩ := Option.map_eq_some_iff.1 taken
    cases shape
    obtain ⟨written, ends⟩ := ih inner
    exact ⟨by simp [doubled, other, written], ends⟩

/-! ## Paths -/

theorem pathText_single (part : List Char) :
    dialect.pathText [part] = dialect.quoteName (String.ofList part) := rfl

theorem pathText_cons (first second : List Char) (others : List (List Char)) :
    dialect.pathText (first :: second :: others) =
      dialect.quoteName (String.ofList first) ++ '.' :: dialect.pathText (second :: others) := by
  simp [pathText, intersperse]

/-- Segments are read back from their path, in front of whatever stops it. -/
theorem readPath?_pathText {parts : List (List Char)} {behind : List Char} (nonempty : parts ≠ [])
    (stops : dialect.Stops behind) :
    dialect.readPath? (dialect.pathText parts ++ behind) = some (parts, behind) := by
  induction parts with
  | nil => exact absurd rfl nonempty
  | cons first rest ih =>
    cases rest with
    | nil =>
      have taken := takeQuoted_doubled first fun c head => (stops c head).1
      rw [pathText_single, quoteName_ofList, readPath?, if_pos rfl, taken]
      cases behind with
      | nil => rfl
      | cons c more => exact if_neg (stops c rfl).2
    | cons second others =>
      -- The dot behind the first identifier does not continue it.
      have closes : ∀ c ∈ ('.' :: (dialect.pathText (second :: others) ++ behind)).head?,
          c ≠ dialect.closeQuote := by
        intro c head
        cases head
        exact dot_ne_closeQuote dialect
      have taken := takeQuoted_doubled first closes
      rw [pathText_cons, List.append_assoc, List.cons_append, quoteName_ofList, readPath?, if_pos rfl,
        taken]
      simp only [↓reduceIte, ih (List.cons_ne_nil _ _), Option.map_some]

/-- Nothing but a path is read as segments, and it is read to where it stops. -/
theorem written_of_readPath? {text behind : List Char} {parts : List (List Char)}
    (read : dialect.readPath? text = some (parts, behind)) :
    parts ≠ [] ∧ text = dialect.pathText parts ++ behind ∧ dialect.Stops behind := by
  fun_induction readPath? dialect text generalizing parts behind with
  | case1 => cases read
  | case2 => cases read
  | case3 rest segment taken =>
    cases read
    obtain ⟨written, _⟩ := written_of_takeQuoted taken
    refine ⟨List.cons_ne_nil _ _, ?_, ?_⟩
    · rw [pathText_single, quoteName_ofList, written]
    · rintro c ⟨⟩
  | case4 rest segment more taken ih =>
    obtain ⟨⟨others, left⟩, inner, shape⟩ := Option.map_eq_some_iff.1 read
    cases shape
    obtain ⟨nonempty, path, stops⟩ := ih inner
    obtain ⟨written, _⟩ := written_of_takeQuoted taken
    refine ⟨List.cons_ne_nil _ _, ?_, stops⟩
    cases others with
    | nil => exact absurd rfl nonempty
    | cons second further =>
      rw [pathText_cons, List.append_assoc, List.cons_append, quoteName_ofList, written, path]
  | case5 rest segment d more taken other =>
    cases read
    obtain ⟨written, ends⟩ := written_of_takeQuoted taken
    refine ⟨List.cons_ne_nil _ _, ?_, ?_⟩
    · rw [pathText_single, quoteName_ofList, written]
    · rintro c ⟨⟩
      exact ⟨ends d rfl, other⟩
  | case6 => cases read

theorem readPath?_eq_some {text behind : List Char} {parts : List (List Char)} :
    dialect.readPath? text = some (parts, behind) ↔
      parts ≠ [] ∧ text = dialect.pathText parts ++ behind ∧ dialect.Stops behind := by
  constructor
  · exact written_of_readPath?
  · rintro ⟨nonempty, rfl, stops⟩
    exact readPath?_pathText nonempty stops

end Dialect

/-! ## Names -/

namespace Text

theorem segments_eq_splitOn (separator : Char) (text : List Char) :
    segments separator text = text.splitOn separator := by
  induction text with
  | nil => rfl
  | cons c rest ih =>
    rw [List.splitOn_eq_splitOnP] at ih ⊢
    rw [List.splitOnP_cons_eq_if_modifyHead, ← ih, segments]
    by_cases same : c = separator
    · simp [same]
    · cases cut : segments separator rest with
      | nil => exact absurd cut (segments_ne_nil separator rest)
      | cons first others => simp [same]

theorem splitOn_ne_nil (separator : Char) (text : List Char) : text.splitOn separator ≠ [] := by
  rw [← segments_eq_splitOn]
  exact segments_ne_nil separator text

end Text

/-- The text of a path of names. -/
theorem writeFrom_names (dialect : Dialect) (index : Nat) (parts : List (List Char)) :
    writeFrom dialect index (intersperse [.mark .dot] (parts.map fun part => [.name (String.ofList part)])) =
      dialect.pathText parts := by
  induction parts generalizing index with
  | nil => rfl
  | cons first rest ih =>
    cases rest with
    | nil => simp [intersperse, writeFrom, Token.write, Dialect.pathText]
    | cons second others =>
      rw [Dialect.pathText_cons, ← ih index]
      simp [intersperse, writeFrom, Token.write, Token.uses, Mark.text]

/-- A name is quoted as the path of its segments. -/
theorem quote_eq_pathText (dialect : Dialect) (name : String) :
    (dialect.quote name).toList = dialect.pathText (name.toList.splitOn '.') := by
  rw [Dialect.quote, Sql.write, String.toList_ofList, path, segments_eq_splitOn, writeFrom_names]

/-- Quoting is undone by the reader. It reads the segments of a name from a text exactly if the
text begins with the quoted name and does not go on with it; then it stops at the end of the
quoted name. So a quoted name alone is read as a whole, and no two names are quoted alike. -/
theorem quoted_names_are_read_back (dialect : Dialect) (name : String) :
    (∀ text behind, dialect.readPath? text = some (name.toList.splitOn '.', behind) ↔
        text = (dialect.quote name).toList ++ behind ∧ dialect.Stops behind) ∧
      dialect.readPath? (dialect.quote name).toList = some (name.toList.splitOn '.', []) ∧
      ∀ other, dialect.quote other = dialect.quote name ↔ other = name := by
  have whole (name : String) :
      dialect.readPath? (dialect.quote name).toList = some (name.toList.splitOn '.', []) := by
    rw [Dialect.readPath?_eq_some, quote_eq_pathText, List.append_nil]
    refine ⟨splitOn_ne_nil '.' _, rfl, ?_⟩
    rintro c ⟨⟩
  refine ⟨fun text behind => ?_, whole name, fun other => ⟨fun same => ?_, fun same => same ▸ rfl⟩⟩
  · rw [Dialect.readPath?_eq_some, quote_eq_pathText]
    exact and_iff_right (splitOn_ne_nil '.' _)
  · have read := whole other
    rw [same, whole name] at read
    have segments : name.toList.splitOn '.' = other.toList.splitOn '.' :=
      (Prod.mk.inj (Option.some.inj read)).1
    have spelled := congrArg (List.intercalate ['.']) segments
    rw [List.intercalate_splitOn, List.intercalate_splitOn] at spelled
    exact (String.toList_inj.1 spelled).symm

end Polyquery
