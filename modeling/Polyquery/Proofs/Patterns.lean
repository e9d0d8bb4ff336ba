import Mathlib.Data.List.Infix
import Polyquery.Proofs.LowerCase
import Polyquery.Sql.Condition

/-! Comparisons with a pattern. What such a comparison says of a cell is read off its
tokens, by the rules of SQL for wildcards. A text without wildcards that is bound with
a percent sign behind it, or on both sides, is found at the beginning of the cell, or
as a part of it. -/
namespace Polyquery
open Sql Text

/-- Whether a text matches a pattern: `%` stands for any run of characters, `_` for
any one character, and every other character for itself. -/
def like : List Char → List Char → Bool
  | [], text => text.isEmpty
  | c :: pattern, text =>
    if c = '%' then text.tails.any (like pattern)
    else match text with
      | [] => false
      | d :: rest => (c = '_' || c = d) && like pattern rest

/-- A text in which no character is a wildcard. -/
def Tame (text : List Char) : Prop := ∀ c ∈ text, c ≠ '%' ∧ c ≠ '_'

instance (text : List Char) : Decidable (Tame text) :=
  List.decidableBAll (fun c => c ≠ '%' ∧ c ≠ '_') text

/-- What a comparison of a column with a pattern says of a cell of that column. `ILIKE`
takes both sides in lower case; `LIKE` behind `LOWER` takes the cell in lower case and
the pattern as it is. -/
def comparison? (column : Sql) (cell : String) (sql : Sql) : Option Bool :=
  match sql.getLast? with
  | some (.bound (.string pattern)) =>
    if sql = column ++ [.space, .word .ilike, .space, .bound (.string pattern)] then
      some (like (lower pattern).toList (lower cell).toList)
    else if sql = .word .lower :: parenthesized column ++
        [.space, .word .like, .space, .bound (.string pattern)] then
      some (like pattern.toList (lower cell).toList)
    else none
  | _ => none

/-! ## Wildcards -/

theorem like_percent {pattern text : List Char} :
    like ('%' :: pattern) text = true ↔ ∃ rest, rest <:+ text ∧ like pattern rest = true := by
  simp [like]

theorem like_any (text : List Char) : like ['%'] text = true :=
  like_percent.2 ⟨[], List.nil_suffix, rfl⟩

/-- Tame text in front of a pattern is found in front of what the pattern matches. -/
theorem like_append {part pattern text : List Char} (tame : Tame part) :
    like (part ++ pattern) text = true ↔
      ∃ rest, text = part ++ rest ∧ like pattern rest = true := by
  induction part generalizing text with
  | nil => simp
  | cons c part ih =>
    obtain ⟨⟨noRun, noOne⟩, others⟩ := List.forall_mem_cons.1 tame
    cases text with
    | nil => simp [like, noRun]
    | cons d text =>
      simp only [List.cons_append, like, noRun, noOne, ↓reduceIte, decide_false, Bool.false_or,
        Bool.and_eq_true, decide_eq_true_eq, ih others, List.cons.injEq]
      constructor
      · rintro ⟨rfl, rest, rfl, matched⟩
        exact ⟨rest, ⟨rfl, rfl⟩, matched⟩
      · rintro ⟨rest, ⟨rfl, rfl⟩, matched⟩
        exact ⟨rfl, rest, rfl, matched⟩

/-- With a wildcard behind it, tame text is found at the beginning. -/
theorem like_beginning {part text : List Char} (tame : Tame part) :
    like (part ++ ['%']) text = true ↔ part <+: text := by
  rw [like_append tame]
  constructor
  · rintro ⟨rest, rfl, _⟩
    exact List.prefix_append part rest
  · rintro ⟨rest, rfl⟩
    exact ⟨rest, rfl, like_any rest⟩

/-- With wildcards on both sides, it is found anywhere. -/
theorem like_part {part text : List Char} (tame : Tame part) :
    like ('%' :: (part ++ ['%'])) text = true ↔ part <:+: text := by
  rw [like_percent, List.infix_iff_prefix_suffix]
  simp only [like_beginning tame, and_comm]

/-! ## Comparisons -/

/-- What the pattern predicate of a dialect says of a cell. -/
theorem comparison?_like (dialect : Dialect) (column : ColumnRef) (pattern cell : String) :
    comparison? column.sql cell ((Predicate.like column (.string pattern)).sql dialect) =
      some (like (if dialect.ignoresCase then lower pattern else pattern).toList
        (lower cell).toList) := by
  cases able : dialect.ignoresCase with
  | true => simp [Predicate.sql, Dialect.matching, able, comparison?]
  | false =>
    let front : Sql := .word .lower :: parenthesized column.sql
    let behind (operator : Word) : Sql :=
      [.space, .word operator, .space, .bound (.string pattern)]
    have written : (Predicate.like column (.string pattern)).sql dialect = front ++ behind .like := by
      simp [Predicate.sql, Dialect.matching, able, front, behind]
    have last : (front ++ behind .like).getLast? = some (.bound (.string pattern)) := by
      simp [behind]
    -- The two comparisons differ in their operator, whatever the column is.
    have other : front ++ behind .like ≠ column.sql ++ behind .ilike := fun same => by
      cases (List.append_inj' same rfl).2
    rw [written, comparison?, last]
    exact (if_neg other).trans (if_pos rfl)

/-! ## Lower case -/

/-- A percent sign ends words, so it leaves the case of the text beside it alone. -/
theorem lower_beginning (text : String) : lower (text ++ "%") = lower text ++ "%" := by
  have shape : (text ++ "%").toList = text.toList ++ ['%'] := by simp
  have behind : lowerAfter [] (text.toList ++ ['%']) = lowerAfter [] text.toList ++ ['%'] ++ [] :=
    lowerAfter_edge percent_endsWords [] text.toList []
  apply String.toList_inj.1
  simp only [lower, String.toList_append, String.toList_ofList, shape, behind, List.append_nil]
  rfl

theorem lower_part (text : String) : lower ("%" ++ text ++ "%") = "%" ++ lower text ++ "%" := by
  have shape : ("%" ++ text ++ "%").toList = '%' :: (text.toList ++ ['%']) := by simp
  have front : lowerAfter [] ('%' :: (text.toList ++ ['%'])) =
      '%' :: lowerAfter [] (text.toList ++ ['%']) :=
    lowerAfter_edge percent_endsWords [] [] (text.toList ++ ['%'])
  have behind : lowerAfter [] (text.toList ++ ['%']) = lowerAfter [] text.toList ++ ['%'] ++ [] :=
    lowerAfter_edge percent_endsWords [] text.toList []
  apply String.toList_inj.1
  simp only [lower, String.toList_append, String.toList_ofList, shape, front, behind, List.append_nil]
  rfl

/-- Lower-casing makes no wildcards. -/
theorem tame_lower {text : String} (tame : Tame text.toList) : Tame (lower text).toList := by
  intro c inside
  rw [lower, String.toList_ofList] at inside
  constructor
  · rintro rfl
    exact (tame _ (mem_of_mem_lowerAfter inside (by decide))).1 rfl
  · rintro rfl
    exact (tame _ (mem_of_mem_lowerAfter inside (by decide))).2 rfl

end Polyquery
