import Mathlib.Data.List.Infix
import Polyquery.Json.Printer
import Polyquery.Proofs.LowerCase
import Polyquery.Proofs.ScalarTexts

/-! Arrays as texts. The compact text of an array has a comma between two elements and
quotes around strings. A text without commas and brackets is part of it exactly if it is
part of the text of an element. A text in quotes is part of it if it is what stands
between two quotes, and those need not be the quotes around one string: a quote inside a
string is one of them, and so are the quotes that end a string and begin the next. -/
namespace Polyquery
open Text

namespace Text

/-! ## Separators -/

theorem intersperse_cons_cons (c : Char) (first second : List Char) (others : List (List Char)) :
    intersperse [c] (first :: second :: others) =
      first ++ c :: intersperse [c] (second :: others) := by
  rw [intersperse]
  · simp
  · simp

/-- A text without the separator lies on one side of it. -/
theorem infix_separated {c : Char} {needle before behind : List Char} (free : c ∉ needle) :
    needle <:+: before ++ c :: behind ↔ needle <:+: before ∨ needle <:+: behind := by
  constructor
  · rintro inside
    rcases List.infix_append_iff.1 inside with front | back | ⟨start, rest, rfl, ends, begins⟩
    · exact .inl front
    · rcases List.infix_cons_iff.1 back with begins | further
      · cases needle with
        | nil => exact .inl List.nil_infix
        | cons d rest =>
          obtain ⟨rfl, _⟩ := List.cons_prefix_cons.1 begins
          exact absurd List.mem_cons_self free
      · exact .inr further
    · cases rest with
      | nil =>
        rw [List.append_nil]
        exact .inl ends.isInfix
      | cons d more =>
        obtain ⟨rfl, _⟩ := List.cons_prefix_cons.1 begins
        exact absurd (by simp) free
  · rintro (⟨start, rest, rfl⟩ | ⟨start, rest, rfl⟩)
    · exact ⟨start, rest ++ c :: behind, by simp⟩
    · exact ⟨before ++ c :: start, rest, by simp⟩

theorem infix_intersperse {c : Char} {needle : List Char} (free : c ∉ needle) (some : needle ≠ [])
    (parts : List (List Char)) :
    needle <:+: intersperse [c] parts ↔ ∃ part ∈ parts, needle <:+: part := by
  induction parts with
  | nil => simp [intersperse, some]
  | cons first rest ih =>
    cases rest with
    | nil => simp [intersperse]
    | cons second others =>
      rw [intersperse_cons_cons, infix_separated free, ih, List.exists_mem_cons_iff _ first]

/-! ## Segments -/

variable {separator : Char}

theorem segments_free {text : List Char} (free : separator ∉ text) : segments separator text = [text] := by
  induction text with
  | nil => rfl
  | cons c rest ih =>
    obtain ⟨other, further⟩ := not_or.1 fun member => free (List.mem_cons.2 member)
    simp [segments, Ne.symm other, ih further]

theorem free_of_mem_segments {text piece : List Char} (member : piece ∈ segments separator text) :
    separator ∉ piece := by
  induction text generalizing piece with
  | nil => simp_all [segments]
  | cons c rest ih =>
    simp only [segments] at member
    split at member
    · rcases List.mem_cons.1 member with rfl | further
      · simp
      · exact ih further
    · next other =>
      cases cut : segments separator rest with
      | nil => exact absurd cut (segments_ne_nil separator rest)
      | cons first others =>
        rw [cut] at member ih
        rcases List.mem_cons.1 member with rfl | further
        · simpa [Ne.symm other] using ih List.mem_cons_self
        · exact ih (List.mem_cons_of_mem first further)

theorem segments_intersperse {parts : List (List Char)} (some : parts ≠ [])
    (free : ∀ part ∈ parts, separator ∉ part) :
    segments separator (intersperse [separator] parts) = parts := by
  induction parts with
  | nil => exact absurd rfl some
  | cons first rest ih =>
    obtain ⟨firstFree, restFree⟩ := List.forall_mem_cons.1 free
    cases rest with
    | nil => exact segments_free firstFree
    | cons second others =>
      rw [intersperse_cons_cons, segments_append, segments_free firstFree, ih (by simp) restFree]
      rfl

/-- Text without the separator in front goes to the first piece. -/
theorem segments_append_free {front text first : List Char} {others : List (List Char)}
    (free : separator ∉ front) (cut : segments separator text = first :: others) :
    segments separator (front ++ text) = (front ++ first) :: others := by
  induction front with
  | nil => exact cut
  | cons c rest ih =>
    obtain ⟨other, further⟩ := not_or.1 fun member => free (List.mem_cons.2 member)
    simp [segments, Ne.symm other, ih further]

/-- What stands in front of a separator at the beginning of a text is its first piece. -/
theorem concat_prefix_iff {piece text : List Char} (free : separator ∉ piece) :
    piece ++ [separator] <+: text ↔ ∃ others, others ≠ [] ∧ segments separator text = piece :: others := by
  constructor
  · rintro ⟨rest, rfl⟩
    refine ⟨segments separator rest, segments_ne_nil separator rest, ?_⟩
    rw [List.append_assoc, List.singleton_append, segments_append, segments_free free]
    rfl
  · rintro ⟨others, more, cut⟩
    have whole := intersperse_segments separator text
    obtain ⟨second, rest, rfl⟩ := List.exists_cons_of_ne_nil more
    rw [cut, intersperse] at whole
    · exact ⟨_, whole⟩
    · simp

/-- A text between two separators is a piece that is neither the first nor the last. -/
theorem separated_infix_iff {piece text : List Char} (free : separator ∉ piece) :
    separator :: (piece ++ [separator]) <:+: text ↔
      piece ∈ (segments separator text).tail.dropLast := by
  induction text with
  | nil => simp [segments]
  | cons c rest ih =>
    rw [List.infix_cons_iff, ih, List.cons_prefix_cons, concat_prefix_iff free]
    cases cut : segments separator rest with
    | nil => exact absurd cut (segments_ne_nil separator rest)
    | cons first others =>
      by_cases same : c = separator
      · cases others with
        | nil => simp [segments, same, cut]
        | cons second more => simp [segments, same, cut, eq_comm]
      · simp [segments, same, cut, Ne.symm same]

/-! ## Case -/

section
variable (ends : EndsWords separator) (settled : Settled separator)
include ends settled

theorem lowerAfter_intersperse (parts : List (List Char)) :
    lowerAfter [] (intersperse [separator] parts) =
      intersperse [separator] (parts.map (lowerAfter [])) := by
  induction parts with
  | nil => rfl
  | cons first rest ih =>
    cases rest with
    | nil => rfl
    | cons second others =>
      rw [intersperse_cons_cons, lowerAfter_edge ends, ih, settled]
      simp only [List.map_cons, intersperse_cons_cons, List.append_assoc, List.singleton_append]

/-- Pieces are lower-cased one by one. -/
theorem segments_lowerAfter (low : separator.toNat ≤ 0x60) (text : List Char) :
    segments separator (lowerAfter [] text) = (segments separator text).map (lowerAfter []) := by
  have whole := lowerAfter_intersperse ends settled (segments separator text)
  rw [intersperse_segments] at whole
  rw [whole]
  refine segments_intersperse (by simpa using segments_ne_nil separator text) fun part member => ?_
  obtain ⟨piece, inside, rfl⟩ := List.mem_map.1 member
  exact fun here => free_of_mem_segments inside (mem_of_mem_lowerAfter here low)

end

end Text

namespace Json

/-! ## Strings -/

/-- A text that stands for itself between quotes. -/
def Unescaped (text : List Char) : Prop := ∀ c ∈ text, escaped c = [c]

instance (text : List Char) : Decidable (Unescaped text) :=
  List.decidableBAll (fun c => escaped c = [c]) text

/-- A character is a quote, or it is escaped with a backslash in front, or it stands for
itself. -/
theorem escaped_cases (c : Char) :
    c = '"' ∨ (c ≠ '"' ∧ ∃ more, escaped c = '\\' :: more ∧ '"' ∉ more) ∨
      (escaped c = [c] ∧ c ≠ '"' ∧ c ≠ '\\') := by
  by_cases quote : c = '"'
  · exact .inl quote
  by_cases backslash : c = '\\'
  · exact .inr (.inl ⟨quote, ['\\'], by rw [backslash]; rfl, by decide⟩)
  have hex : ∀ n < 0x20, '"' ∉ ['u', '0', '0', Nat.digitChar (n / 16), Nat.digitChar (n % 16)] := by
    decide
  simp only [escaped, quote, backslash, ↓reduceIte]
  split
  · exact .inr (.inl ⟨quote, _, rfl, by decide⟩)
  split
  · exact .inr (.inl ⟨quote, _, rfl, by decide⟩)
  split
  · exact .inr (.inl ⟨quote, _, rfl, by decide⟩)
  split
  · exact .inr (.inl ⟨quote, _, rfl, by decide⟩)
  split
  · exact .inr (.inl ⟨quote, _, rfl, by decide⟩)
  split
  · next control => exact .inr (.inl ⟨quote, _, rfl, hex c.toNat control⟩)
  · exact .inr (.inr ⟨rfl, quote, backslash⟩)

theorem unescaped_cons {c : Char} {text : List Char} :
    Unescaped (c :: text) ↔ escaped c = [c] ∧ Unescaped text := List.forall_mem_cons

/-- The pieces between the quotes inside an escaped text. The first one has a backslash
unless nothing in the text is escaped; another one has none if it is the end of the text
behind a quote, and nothing in it is escaped. -/
structure CutAtQuotes (text first : List Char) (others : List (List Char)) : Prop where
  cut : segments '"' (text.flatMap escaped) = first :: others
  plain : '\\' ∉ first ↔ Unescaped text
  same : Unescaped text → first = text
  ends : ∀ piece, '\\' ∉ piece →
    (piece ∈ others ↔ Unescaped piece ∧ ∃ before, text = before ++ '"' :: piece)

section
variable {c : Char} {rest first : List Char} {others : List (List Char)}

/-- Another character in front makes no difference to what stands behind a quote. -/
theorem behind_cons (other : c ≠ '"') (piece : List Char) :
    (∃ before, c :: rest = before ++ '"' :: piece) ↔ ∃ before, rest = before ++ '"' :: piece := by
  constructor
  · rintro ⟨before, whole⟩
    cases before with
    | nil => exact absurd (List.cons.inj whole).1 other
    | cons d before => exact ⟨before, (List.cons.inj whole).2⟩
  · rintro ⟨before, rfl⟩
    exact ⟨c :: before, rfl⟩

/-- A quote in front leaves the backslash before it as a piece. -/
theorem CutAtQuotes.quote (pieces : CutAtQuotes rest first others) :
    CutAtQuotes ('"' :: rest) ['\\'] (first :: others) := by
  obtain ⟨cut, plain, same, ends⟩ := pieces
  have marked : ¬Unescaped ('"' :: rest) := fun unescaped => by
    simpa [escaped] using (unescaped_cons.1 unescaped).1
  refine ⟨?_, by simp [marked], fun unescaped => absurd unescaped marked, fun piece free => ?_⟩
  · have front : ('"' :: rest).flatMap escaped = ['\\'] ++ '"' :: rest.flatMap escaped := rfl
    rw [front, segments_append, cut]
    rfl
  constructor
  · intro inside
    rcases List.mem_cons.1 inside with rfl | further
    · have unescaped := plain.1 free
      rw [same unescaped]
      exact ⟨unescaped, [], rfl⟩
    · obtain ⟨unescaped, before, whole⟩ := (ends piece free).1 further
      exact ⟨unescaped, '"' :: before, by rw [whole]; rfl⟩
  · rintro ⟨unescaped, before, whole⟩
    cases before with
    | nil =>
      obtain ⟨_, rfl⟩ := List.cons.inj whole
      rw [same unescaped]
      exact List.mem_cons_self
    | cons d before =>
      exact List.mem_cons_of_mem first ((ends piece free).2 ⟨unescaped, before, (List.cons.inj whole).2⟩)

/-- A character that is escaped without a quote goes to the first piece. -/
theorem CutAtQuotes.marked (pieces : CutAtQuotes rest first others) {more : List Char} (other : c ≠ '"')
    (shape : escaped c = '\\' :: more) (free : '"' ∉ more) :
    CutAtQuotes (c :: rest) ('\\' :: more ++ first) others := by
  have front : (c :: rest).flatMap escaped = ('\\' :: more) ++ rest.flatMap escaped := by
    rw [List.flatMap_cons, shape]
  have marked : ¬Unescaped (c :: rest) := fun unescaped => by
    have itself := (unescaped_cons.1 unescaped).1
    rw [shape] at itself
    obtain ⟨rfl, rfl⟩ := List.cons.inj itself
    simp [escaped] at shape
  refine ⟨?_, by simp [marked], fun unescaped => absurd unescaped marked, fun piece noBackslash => ?_⟩
  · rw [front, segments_append_free (by simp [free]) pieces.cut]
  · rw [behind_cons other, pieces.ends piece noBackslash]

/-- A character that stands for itself goes to the first piece. -/
theorem CutAtQuotes.itself (pieces : CutAtQuotes rest first others) (shape : escaped c = [c])
    (quote : c ≠ '"') (backslash : c ≠ '\\') : CutAtQuotes (c :: rest) (c :: first) others := by
  have front : (c :: rest).flatMap escaped = [c] ++ rest.flatMap escaped := by
    rw [List.flatMap_cons, shape]
  refine ⟨?_, ?_, fun unescaped => ?_, fun piece noBackslash => ?_⟩
  · rw [front, segments_append_free (by simp [Ne.symm quote]) pieces.cut]
    rfl
  · rw [unescaped_cons, ← pieces.plain]
    simp [shape, Ne.symm backslash]
  · rw [pieces.same (unescaped_cons.1 unescaped).2]
  · rw [behind_cons quote, pieces.ends piece noBackslash]

end

theorem exists_cutAtQuotes (text : List Char) : ∃ first others, CutAtQuotes text first others := by
  induction text with
  | nil => exact ⟨[], [], rfl, by simp [Unescaped], by simp, by simp⟩
  | cons c rest ih =>
    obtain ⟨first, others, pieces⟩ := ih
    rcases escaped_cases c with rfl | ⟨other, more, shape, free⟩ | ⟨shape, quote, backslash⟩
    · exact ⟨_, _, pieces.quote⟩
    · exact ⟨_, _, pieces.marked other shape free⟩
    · exact ⟨_, _, pieces.itself shape quote backslash⟩

/-- A piece without a backslash is the whole text, or its end behind a quote. -/
theorem mem_segments_escaped {text piece : List Char} (free : '\\' ∉ piece) :
    piece ∈ segments '"' (text.flatMap escaped) ↔
      Unescaped piece ∧ (text = piece ∨ ∃ before, text = before ++ '"' :: piece) := by
  obtain ⟨first, others, cut, plain, same, ends⟩ := exists_cutAtQuotes text
  rw [cut, List.mem_cons, ends piece free, and_or_left]
  refine or_congr_left ⟨?_, ?_⟩
  · rintro rfl
    have unescaped := plain.1 free
    exact ⟨same unescaped ▸ unescaped, (same unescaped).symm⟩
  · rintro ⟨unescaped, rfl⟩
    exact (same unescaped).symm

/-! ## Arrays -/

/-- A value without others in it: no array and no object. -/
def isFlat : Json → Bool
  | .array _ | .object _ => false
  | .null | .bool _ | .number _ | .string _ => true

/-- A string. -/
def isText : Json → Bool
  | .string _ => true
  | .null | .bool _ | .number _ | .array _ | .object _ => false

theorem compactItems_eq_map (items : List Json) : compactItems items = items.map compactChars := by
  induction items with
  | nil => rfl
  | cons item rest ih => rw [compactItems, ih, List.map_cons]

theorem compactChars_array (items : List Json) :
    compactChars (.array items) = '[' :: intersperse [','] (items.map compactChars) ++ [']'] := by
  rw [compactChars, compactItems_eq_map]

theorem compactChars_string (s : String) :
    compactChars (.string s) = '"' :: s.toList.flatMap escaped ++ ['"'] := by
  rw [compactChars, quoted]

/-- The text of a value that is neither a string nor made of others. -/
theorem scalar_compactChars {item : Json} (flat : item.isFlat = true) (other : item.isText = false) :
    Scalar (compactChars item) := by
  cases item with
  | array | object => cases flat
  | string => cases other
  | null =>
    rw [compactChars]
    decide
  | bool b => cases b <;> (rw [compactChars]; decide)
  | number n =>
    rw [compactChars]
    cases n with
    | int n => exact scalar_int n
    | float x finite => exact scalar_print _ (Decimal.Double.isNaN_of_isFinite finite)

/-- The rest of the text of an array behind an item: what else is in it, each behind a
comma, and the bracket. -/
def closing (items : List Json) : List Char :=
  items.flatMap (fun item => ',' :: compactChars item) ++ [']']

theorem compactChars_array_cons (first : Json) (rest : List Json) :
    compactChars (.array (first :: rest)) = '[' :: (compactChars first ++ closing rest) := by
  have parts : intersperse [','] ((first :: rest).map compactChars) =
      compactChars first ++ rest.flatMap fun item => ',' :: compactChars item := by
    induction rest generalizing first with
    | nil => simp [intersperse]
    | cons second others ih =>
      have further := ih second
      rw [List.map_cons] at further
      rw [List.map_cons, List.map_cons, intersperse_cons_cons, further, List.flatMap_cons]
      rfl
  rw [compactChars_array, parts, closing]
  simp

/-- The pieces between the quotes in the rest of the text of an array, where a string has
ended and the given text followed. -/
def piecesBehind (gap : List Char) : List Json → List (List Char)
  | [] => []
  | .string s :: rest =>
    (gap ++ [',']) :: (segments '"' (s.toList.flatMap escaped) ++ piecesBehind [] rest)
  | item :: rest => piecesBehind (gap ++ ',' :: compactChars item) rest

/-- The pieces between the first quote and the last in the text of an array. -/
def quotedPieces : List Json → List (List Char)
  | [] => []
  | .string s :: rest => segments '"' (s.toList.flatMap escaped) ++ piecesBehind [] rest
  | _ :: rest => quotedPieces rest

theorem piecesBehind_other {item : Json} (other : item.isText = false) (gap : List Char)
    (rest : List Json) :
    piecesBehind gap (item :: rest) = piecesBehind (gap ++ ',' :: compactChars item) rest := by
  cases item with
  | string => cases other
  | _ => rfl

theorem quotedPieces_other {item : Json} (other : item.isText = false) (rest : List Json) :
    quotedPieces (item :: rest) = quotedPieces rest := by
  cases item with
  | string => cases other
  | _ => rfl

theorem quote_free {text : List Char} (scalar : Scalar text) : '"' ∉ text :=
  fun inside => absurd (scalar _ inside) (by decide)

theorem segments_closing {gap : List Char} {items : List Json} (free : '"' ∉ gap)
    (flat : ∀ item ∈ items, item.isFlat = true) :
    ∃ last, segments '"' (gap ++ closing items) = piecesBehind gap items ++ [last] := by
  induction items generalizing gap with
  | nil => exact ⟨gap ++ [']'], segments_free (by simp [free, closing])⟩
  | cons item rest ih =>
    obtain ⟨itemFlat, restFlat⟩ := List.forall_mem_cons.1 flat
    cases kind : item.isText with
    | true =>
      cases item with
      | string s =>
        have bare : '"' ∉ ([] : List Char) := by simp
        obtain ⟨last, cut⟩ := ih bare restFlat
        have shape : gap ++ closing (.string s :: rest) = (gap ++ [',']) ++ '"' ::
            (s.toList.flatMap escaped ++ '"' :: ([] ++ closing rest)) := by
          simp [closing, compactChars_string]
        refine ⟨last, ?_⟩
        rw [shape, segments_append, segments_append, cut, segments_free (by simp [free]), piecesBehind]
        simp
      | _ => cases kind
    | false =>
      have plain := quote_free (scalar_compactChars itemFlat kind)
      have longer : '"' ∉ gap ++ ',' :: compactChars item := by simp [free, plain]
      obtain ⟨last, cut⟩ := ih longer restFlat
      have shape : gap ++ closing (item :: rest) = gap ++ ',' :: compactChars item ++ closing rest := by
        simp [closing]
      exact ⟨last, by rw [shape, cut, piecesBehind_other kind]⟩

theorem segments_opening_string {front : List Char} {s : String} {rest : List Json}
    (free : '"' ∉ front) (flat : ∀ item ∈ rest, item.isFlat = true) :
    (segments '"' (front ++ (compactChars (.string s) ++ closing rest))).tail.dropLast =
      quotedPieces (.string s :: rest) := by
  have bare : '"' ∉ ([] : List Char) := by simp
  obtain ⟨last, cut⟩ := segments_closing bare flat
  have shape : front ++ (compactChars (.string s) ++ closing rest) = front ++ '"' ::
      (s.toList.flatMap escaped ++ '"' :: ([] ++ closing rest)) := by
    simp [compactChars_string]
  rw [shape, segments_append, segments_append, cut, segments_free free, quotedPieces,
    ← List.append_assoc (segments _ _), List.singleton_append, List.tail_cons, List.dropLast_concat]

theorem segments_opening {front : List Char} {first : Json} {rest : List Json} (free : '"' ∉ front)
    (flat : ∀ item ∈ first :: rest, item.isFlat = true) :
    (segments '"' (front ++ (compactChars first ++ closing rest))).tail.dropLast =
      quotedPieces (first :: rest) := by
  -- Values that are no strings go to the text in front of the first quote.
  induction rest generalizing front first with
  | nil =>
    cases kind : first.isText with
    | true =>
      cases first with
      | string s => exact segments_opening_string free (by simp)
      | _ => cases kind
    | false =>
      have plain := quote_free (scalar_compactChars (flat first (by simp)) kind)
      have none : '"' ∉ front ++ (compactChars first ++ closing []) := by simp [free, plain, closing]
      rw [segments_free none, quotedPieces_other kind]
      rfl
  | cons second others ih =>
    obtain ⟨firstFlat, restFlat⟩ := List.forall_mem_cons.1 flat
    cases kind : first.isText with
    | true =>
      cases first with
      | string s => exact segments_opening_string free restFlat
      | _ => cases kind
    | false =>
      have plain := quote_free (scalar_compactChars firstFlat kind)
      have longer : '"' ∉ front ++ compactChars first ++ [','] := by simp [free, plain]
      have shape : front ++ (compactChars first ++ closing (second :: others)) =
          front ++ compactChars first ++ [','] ++ (compactChars second ++ closing others) := by
        simp [closing]
      rw [shape, ih longer restFlat, quotedPieces_other kind]

/-- The pieces of the text of an array without others in it. -/
theorem segments_array {items : List Json} (flat : ∀ item ∈ items, item.isFlat = true) :
    (segments '"' (compactChars (.array items))).tail.dropLast = quotedPieces items := by
  cases items with
  | nil => rfl
  | cons first rest =>
    rw [compactChars_array_cons]
    have bracket : '"' ∉ ['['] := by decide
    exact segments_opening bracket flat

/-! ## Between strings -/

/-- A text that stands behind a string up to the quote of the next one. -/
inductive OpensGap : List Json → List Char → Prop where
  | next (s : String) (rest : List Json) : OpensGap (.string s :: rest) [',']
  | further {item : Json} {rest : List Json} {gap : List Char} (other : item.isText = false)
      (opens : OpensGap rest gap) : OpensGap (item :: rest) (',' :: compactChars item ++ gap)

/-- A text that stands between two neighbouring strings of an array: a comma, and the
values between the strings with a comma behind each. -/
inductive StandsBetween : List Json → List Char → Prop where
  | here (s : String) {rest : List Json} {gap : List Char} (opens : OpensGap rest gap) :
      StandsBetween (.string s :: rest) gap
  | further (item : Json) {rest : List Json} {gap : List Char} (between : StandsBetween rest gap) :
      StandsBetween (item :: rest) gap

section
variable {rest : List Json} {gap piece : List Char}

theorem opensGap_string (s : String) : OpensGap (.string s :: rest) gap ↔ gap = [','] := by
  constructor
  · intro opens
    cases opens with
    | next => rfl
    | further other => cases other
  · rintro rfl
    exact .next s rest

theorem opensGap_other {item : Json} (other : item.isText = false) :
    OpensGap (item :: rest) gap ↔ ∃ more, gap = ',' :: compactChars item ++ more ∧ OpensGap rest more := by
  constructor
  · intro opens
    cases opens with
    | next => cases other
    | further _ opens => exact ⟨_, rfl, opens⟩
  · rintro ⟨more, rfl, opens⟩
    exact .further other opens

theorem standsBetween_string (s : String) :
    StandsBetween (.string s :: rest) gap ↔ OpensGap rest gap ∨ StandsBetween rest gap := by
  constructor
  · intro between
    cases between with
    | here _ opens => exact .inl opens
    | further _ between => exact .inr between
  · rintro (opens | between)
    · exact .here s opens
    · exact .further _ between

theorem standsBetween_other {item : Json} (other : item.isText = false) :
    StandsBetween (item :: rest) gap ↔ StandsBetween rest gap := by
  constructor
  · intro between
    cases between with
    | here => cases other
    | further _ between => exact between
  · exact .further item

theorem string_mem_other {item : Json} (other : item.isText = false) (s : String) :
    .string s ∈ item :: rest ↔ .string s ∈ rest := by
  rw [List.mem_cons, or_iff_right]
  rintro rfl
  cases other

/-- A piece behind a string is the gap up to the next one, a piece of a string, or what
stands between two of them. -/
theorem mem_piecesBehind {items : List Json} :
    piece ∈ piecesBehind gap items ↔
      (∃ more, piece = gap ++ more ∧ OpensGap items more) ∨
      (∃ s, .string s ∈ items ∧ piece ∈ segments '"' (s.toList.flatMap escaped)) ∨
      StandsBetween items piece := by
  induction items generalizing gap with
  | nil =>
    refine iff_of_false (by simp [piecesBehind]) ?_
    rintro (⟨more, _, opens⟩ | ⟨s, inside, _⟩ | between)
    · cases opens
    · cases inside
    · cases between
  | cons item rest ih =>
    cases kind : item.isText with
    | true =>
      cases item with
      | string s =>
        simp only [piecesBehind, List.mem_cons, List.mem_append, ih, opensGap_string,
          standsBetween_string, List.nil_append, exists_eq_right, exists_eq_left', string.injEq,
          or_and_right, exists_or, exists_eq_left]
        grind
      | _ => cases kind
    | false =>
      simp only [piecesBehind_other kind, ih, opensGap_other kind, standsBetween_other kind,
        string_mem_other kind]
      refine or_congr_left ⟨?_, ?_⟩
      · rintro ⟨more, rfl, opens⟩
        exact ⟨_, by simp, more, rfl, opens⟩
      · rintro ⟨_, rfl, more, rfl, opens⟩
        exact ⟨more, by simp, opens⟩

/-- A piece between quotes is a piece of a string, or what stands between two of them. -/
theorem mem_quotedPieces {items : List Json} :
    piece ∈ quotedPieces items ↔
      (∃ s, .string s ∈ items ∧ piece ∈ segments '"' (s.toList.flatMap escaped)) ∨
      StandsBetween items piece := by
  induction items with
  | nil =>
    refine iff_of_false (by simp [quotedPieces]) ?_
    rintro (⟨s, inside, _⟩ | between)
    · cases inside
    · cases between
  | cons item rest ih =>
    cases kind : item.isText with
    | true =>
      cases item with
      | string s =>
        simp only [quotedPieces, List.mem_append, mem_piecesBehind, standsBetween_string,
          List.nil_append, exists_eq_left', List.mem_cons, string.injEq, or_and_right, exists_or,
          exists_eq_left]
        grind
      | _ => cases kind
    | false =>
      simp only [quotedPieces_other kind, ih, standsBetween_other kind, string_mem_other kind]

end

end Json
end Polyquery
