import Polyquery.Proofs.FilterPasses
import Polyquery.Proofs.Patterns
import Polyquery.Proofs.Timestamps

/-! What text filters find. A text filter compares the cell with a pattern that is made
of the text of the bound value. So the blanks around a strict timestamp are not looked
for, a placeholder of an open bound asks for nothing, and a percent sign or an
underscore in the text is a wildcard like any other. Every other text is found at the
beginning of a cell, or as a part of it, in any case of letters. -/
namespace Polyquery
open Sql Text Calendar

/-- The text that a text filter looks for; nothing for a placeholder of an open bound. -/
def soughtText? (text : String) : Option String :=
  if text = openLow ∨ text = openHigh then none
  else if (Instant.readIso? text).isSome then some (String.ofList (trim text.toList))
  else some text

/-- What is looked for is the text of the bound value. -/
theorem text?_ofText (text : String) : (Value.ofText text).text? = soughtText? text := by
  unfold Value.ofText soughtText?
  split
  · rfl
  · cases read : Instant.readIso? text with
    | none => rfl
    | some t => simp [Value.text?, Value.display, iso_of_readIso? read]

theorem mem_of_mem_trim {text : List Char} {c : Char} (inside : c ∈ trim text) : c ∈ text := by
  rw [trim, List.mem_reverse] at inside
  exact (List.dropWhile_sublist _).mem (List.mem_reverse.1 ((List.dropWhile_sublist _).mem inside))

/-- Nothing is looked for that is not in the text. -/
theorem tame_of_soughtText? {text sought : String} (looks : soughtText? text = some sought)
    (tame : Tame text.toList) : Tame sought.toList := by
  unfold soughtText? at looks
  split at looks
  · cases looks
  · split at looks
    · cases looks
      rw [String.toList_ofList]
      exact fun c inside => tame c (mem_of_mem_trim inside)
    · cases looks
      exact tame

/-! ## Comparisons -/

/-- The predicate of a text filter: the pattern of the text that it looks for. -/
theorem textPredicate_ofText (dialect : Dialect) (column : ColumnRef) (text : String)
    (pattern : String → String) :
    textPredicate dialect column (Value.ofText text) pattern = (soughtText? text).map fun sought =>
      .like column (.string (pattern (if dialect.ignoresCase then sought else lower sought))) := by
  rw [textPredicate, text?_ofText]

/-- A pattern that goes with lower-casing compares the same two texts in every dialect,
wherever the text is lower-cased. -/
theorem comparison?_pattern {pattern : String → String}
    (lowers : ∀ text, lower (pattern text) = pattern (lower text)) (dialect : Dialect)
    (column : ColumnRef) (sought cell : String) :
    comparison? column.sql cell ((Predicate.like column (.string
        (pattern (if dialect.ignoresCase then sought else lower sought)))).sql dialect) =
      some (like (pattern (lower sought)).toList (lower cell).toList) := by
  rw [comparison?_like]
  cases dialect.ignoresCase with
  | true => simp only [↓reduceIte, lowers]
  | false => rfl

variable {sought : String}

theorem found_at_beginning (tame : Tame sought.toList) (dialect : Dialect) (column : ColumnRef)
    (cell : String) :
    comparison? column.sql cell ((Predicate.like column (.string
        ((if dialect.ignoresCase then sought else lower sought) ++ "%"))).sql dialect) =
      some (decide ((lower sought).toList <+: (lower cell).toList)) := by
  have shape : (lower sought ++ "%").toList = (lower sought).toList ++ ['%'] := by simp
  rw [comparison?_pattern lower_beginning, shape, Option.some_inj, Bool.eq_iff_iff,
    like_beginning (tame_lower tame), decide_eq_true_iff]

theorem found_as_part (tame : Tame sought.toList) (dialect : Dialect) (column : ColumnRef)
    (cell : String) :
    comparison? column.sql cell ((Predicate.like column (.string
        ("%" ++ (if dialect.ignoresCase then sought else lower sought) ++ "%"))).sql dialect) =
      some (decide ((lower sought).toList <:+: (lower cell).toList)) := by
  have shape : ("%" ++ lower sought ++ "%").toList = '%' :: ((lower sought).toList ++ ['%']) := by
    simp
  rw [comparison?_pattern lower_part, shape, Option.some_inj, Bool.eq_iff_iff,
    like_part (tame_lower tame), decide_eq_true_iff]

/-- A text filter with a tame text finds the cells that begin with what it looks for,
or have it as a part, in any case of letters and in every dialect. What it looks for
is the text, without the blanks around a strict timestamp. A filter with a placeholder
of an open bound looks for nothing and has no predicate. -/
theorem text_filters_find_their_text (query : Query) (dialect : Dialect) (key text : String)
    (tame : Tame text.toList) :
    (soughtText? text = none →
      query.translation? dialect ⟨key, .string (.string text)⟩ = none ∧
      query.translation? dialect ⟨key, .fuzzy (.string text)⟩ = none) ∧
    ∀ sought, soughtText? text = some sought → ∃ starts holds,
      query.translation? dialect ⟨key, .string (.string text)⟩ = some starts ∧
      query.translation? dialect ⟨key, .fuzzy (.string text)⟩ = some holds ∧
      ∀ cell : String,
        comparison? (query.filterColumn key).sql cell (starts.sql dialect) =
          some (decide ((lower sought).toList <+: (lower cell).toList)) ∧
        comparison? (query.filterColumn key).sql cell (holds.sql dialect) =
          some (decide ((lower sought).toList <:+: (lower cell).toList)) := by
  have string : query.translation? dialect ⟨key, .string (.string text)⟩ = _ :=
    textPredicate_ofText dialect (query.filterColumn key) text fun found => found ++ "%"
  have fuzzy : query.translation? dialect ⟨key, .fuzzy (.string text)⟩ = _ :=
    textPredicate_ofText dialect (query.filterColumn key) text fun found => "%" ++ found ++ "%"
  constructor
  · intro nothing
    rw [string, fuzzy, nothing]
    exact ⟨rfl, rfl⟩
  · intro sought looks
    have plain := tame_of_soughtText? looks tame
    rw [string, fuzzy, looks]
    exact ⟨_, _, rfl, rfl, fun cell =>
      ⟨found_at_beginning plain dialect _ cell, found_as_part plain dialect _ cell⟩⟩

/-- A timestamp with blanks around it is found without them. -/
theorem padded_timestamp_is_found :
    let text := " 2024-03-01T12:30:00.000Z "
    let logs := Query.plain "logs" .read
    Tame text.toList ∧ ∃ starts holds,
      logs.translation? .oracle ⟨"line:2", .string (.string text)⟩ = some starts ∧
      logs.translation? .oracle ⟨"line:2", .fuzzy (.string text)⟩ = some holds ∧
      comparison? (logs.filterColumn "line:2").sql "2024-03-01t12:30:00.000Z OK"
        (starts.sql .oracle) = some true ∧
      comparison? (logs.filterColumn "line:2").sql "OK 2024-03-01T12:30:00.000Z"
        (starts.sql .oracle) = some false ∧
      comparison? (logs.filterColumn "line:2").sql "OK 2024-03-01T12:30:00.000Z"
        (holds.sql .oracle) = some true := by
  intro text logs
  have tame : Tame text.toList := by decide +kernel
  have looks : soughtText? text = some "2024-03-01T12:30:00.000Z" := by decide +kernel
  obtain ⟨starts, holds, string, fuzzy, found⟩ :=
    (text_filters_find_their_text logs .oracle "line:2" text tame).2 _ looks
  exact ⟨tame, starts, holds, string, fuzzy, (found _).1.trans (by decide +kernel),
    (found _).1.trans (by decide +kernel), (found _).2.trans (by decide +kernel)⟩

/-- Texts that are not found as they are: a blank in front of a timestamp is not looked
for, a placeholder of an open bound asks for nothing, and a percent sign is a wildcard. -/
theorem texts_not_found_as_they_are :
    let goods := Query.plain "goods" .read
    (∃ p, goods.translation? .postgres ⟨"note", .string (.string " 2024-03-01T12:30:00.000Z")⟩ =
        some p ∧
      comparison? (goods.filterColumn "note").sql "2024-03-01T12:30:00.000Z" (p.sql .postgres) =
        some true ∧
      ¬(lower " 2024-03-01T12:30:00.000Z").toList <+: (lower "2024-03-01T12:30:00.000Z").toList) ∧
    goods.translation? .mysql ⟨"note", .fuzzy (.string "0000-00-00T00:00:00.000Z")⟩ = none ∧
    ∃ p, goods.translation? .oracle ⟨"note", .fuzzy (.string "50% Off")⟩ = some p ∧
      comparison? (goods.filterColumn "note").sql "500 pieces OFF" (p.sql .oracle) = some true ∧
      ¬(lower "50% Off").toList <:+: (lower "500 pieces OFF").toList := by
  refine ⟨⟨_, rfl, ?_, ?_⟩, rfl, _, rfl, ?_, ?_⟩ <;> decide +kernel

end Polyquery
