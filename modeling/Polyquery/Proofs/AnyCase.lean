import Mathlib.Data.List.Infix
import Polyquery.Proofs.LowerCase
import Polyquery.Query.Schema

/-! Words in any case of letters. A word of small ASCII letters is in the lower case of a text
exactly if the text has it in some mixture of small and capital letters. That is so because
nothing beyond ASCII is lower-cased to such a letter, apart from the Kelvin sign and the
dotted capital I. Money is such a word, and so the native type of a column speaks of money
as soon as it has these five letters in it. -/
namespace Polyquery
open Text

namespace Text

/-! ## Letters -/

/-- A small letter whose one capital is that of ASCII. -/
def HasOneCapital (d : Char) : Prop := 0x60 < d.toNat ∧ d.toNat < 0x7B ∧ d ≠ 'i' ∧ d ≠ 'k'

instance (d : Char) : Decidable (HasOneCapital d) := inferInstanceAs (Decidable (_ ∧ _ ∧ _ ∧ _))

/-- Runs are moved beyond the small letters, except for the Kelvin sign. -/
theorem caseRuns_above_letters : ∀ run ∈ caseRuns.toList,
    (0x7A : Int) < run.first + run.shift ∨ run.first + run.shift = 0x6B ∧ run.last + run.shift = 0x6B := by
  decide +kernel

section
variable {c d : Char} (letter : HasOneCapital d)
include letter

theorem ascii_of_toLower (same : c.toLower = d) : c.toNat < 0x80 := by
  obtain ⟨_, small, _⟩ := letter
  unfold Char.toLower at same
  split at same
  · next upper =>
    have most : c.toNat ≤ 90 := UInt32.le_iff_toNat_le.1 upper.2
    omega
  · rw [same]
    omega

/-- The letter and its capital are lower-cased to the letter. -/
theorem lowerChar_of_toLower (same : c.toLower = d) : lowerChar c = [d] := by
  rw [lowerChar, if_pos (ascii_of_toLower letter same), same]

/-- No other character is lower-cased to it. -/
theorem toLower_of_mem_lowerChar (inside : d ∈ lowerChar c) : c.toLower = d := by
  obtain ⟨large, small, undotted, notKelvin⟩ := letter
  simp only [lowerChar] at inside
  split at inside
  · exact (List.mem_singleton.1 inside).symm
  · split at inside
    · rcases List.mem_cons.1 inside with dotless | dot
      · exact absurd dotless undotted
      · rw [List.mem_singleton.1 dot] at small
        exact absurd small (by decide)
    · split at inside
      · next run found =>
        have within : run.covers c.toNat = true := by
          have meets := Array.find?_some found
          rwa [CaseRun.covers]
        have member := Array.mem_def.1 (Array.mem_of_find?_eq_some found)
        have code : d.toNat = (c.toNat + run.shift).toNat := by
          rw [List.mem_singleton.1 inside, toNat_moved member within]
        have kelvin : 'k'.toNat = 0x6B := rfl
        simp only [CaseRun.covers, Bool.and_eq_true, decide_eq_true_eq] at within
        rcases caseRuns_above_letters run member with above | atKelvin
        · omega
        · exact absurd (Char.toNat_inj.1 (by omega)) notKelvin
      · rw [List.mem_singleton.1 inside] at small
        omega

end

/-- The first character of a text becomes something in front of what the rest becomes. A
letter is in it if it is all of it. -/
theorem lowerAfter_cons (before : List Char) (c : Char) (rest : List Char) :
    ∃ here, lowerAfter before (c :: rest) = here ++ lowerAfter (c :: before) rest ∧ here ≠ [] ∧
      ∀ d, HasOneCapital d → (d ∈ here → c.toLower = d) ∧ (c.toLower = d → here = [d]) := by
  rw [lowerAfter]
  split
  · next sigma =>
    refine ⟨_, rfl, by split <;> exact List.cons_ne_nil _ _, fun d letter =>
      ⟨fun inside => ?_, fun same => ?_⟩⟩
    · obtain ⟨_, small, _⟩ := letter
      split at inside <;>
      · rw [List.mem_singleton.1 inside] at small
        exact absurd small (by decide)
    · have ascii := ascii_of_toLower letter same
      rw [sigma] at ascii
      exact absurd ascii (by decide)
  · refine ⟨_, rfl, fun vanishes => ?_, fun d letter =>
      ⟨toLower_of_mem_lowerChar letter, lowerChar_of_toLower letter⟩⟩
    simp only [lowerChar] at vanishes
    split at vanishes
    · cases vanishes
    · split at vanishes
      · cases vanishes
      · split at vanishes <;> cases vanishes

/-! ## Words -/

/-- What has nothing in common with a word is passed over. -/
theorem infix_behind {word here text : List Char} (nonempty : word ≠ [])
    (foreign : ∀ d ∈ here, d ∉ word) (inside : word <:+: here ++ text) : word <:+: text := by
  induction here with
  | nil => exact inside
  | cons c rest ih =>
    obtain ⟨first, others⟩ := List.forall_mem_cons.1 foreign
    rcases List.infix_cons_iff.1 inside with begins | later
    · obtain ⟨d, tail, rfl⟩ := List.exists_cons_of_ne_nil nonempty
      rw [(List.cons_prefix_cons.1 begins).1] at first
      exact absurd List.mem_cons_self first
    · exact ih others later

section
variable {word : List Char} (letters : ∀ d ∈ word, HasOneCapital d)
include letters

/-- A lower-cased text begins with a word if the text does, in any case of letters. -/
theorem prefix_lowerAfter (before text : List Char) :
    word <+: lowerAfter before text ↔
      ∃ spelled behind, text = spelled ++ behind ∧ spelled.map Char.toLower = word := by
  induction word generalizing before text with
  | nil => exact iff_of_true List.nil_prefix ⟨[], text, rfl, rfl⟩
  | cons d others ih =>
    obtain ⟨letter, more⟩ := List.forall_mem_cons.1 letters
    cases text with
    | nil => simp [lowerAfter]
    | cons c rest =>
      obtain ⟨here, lowered, nonempty, kinds⟩ := lowerAfter_cons before c rest
      obtain ⟨forth, back⟩ := kinds d letter
      rw [lowered]
      constructor
      · intro begins
        obtain ⟨first, tail, rfl⟩ := List.exists_cons_of_ne_nil nonempty
        have same := forth (by simp [(List.cons_prefix_cons.1 begins).1])
        rw [back same, List.singleton_append, List.cons_prefix_cons] at begins
        obtain ⟨spelled, behind, whole, lower⟩ := (ih more (c :: before) rest).1 begins.2
        exact ⟨c :: spelled, behind, by rw [whole]; rfl, by rw [List.map_cons, same, lower]⟩
      · rintro ⟨spelled, behind, whole, lower⟩
        obtain ⟨first, tail, rfl, same, lowerTail⟩ := List.map_eq_cons_iff.1 lower
        cases whole
        rw [back same, List.singleton_append, List.cons_prefix_cons]
        exact ⟨rfl, (ih more (c :: before) _).2 ⟨tail, behind, rfl, lowerTail⟩⟩

/-- A word is in a lower-cased text if it is in the text, in any case of letters. -/
theorem infix_lowerAfter (nonempty : word ≠ []) (before text : List Char) :
    word <:+: lowerAfter before text ↔
      ∃ front spelled behind, text = front ++ (spelled ++ behind) ∧ spelled.map Char.toLower = word := by
  constructor
  · intro inside
    induction text generalizing before with
    | nil => exact absurd (List.infix_nil.1 inside) nonempty
    | cons c rest ih =>
      obtain ⟨here, lowered, _, kinds⟩ := lowerAfter_cons before c rest
      rw [lowered] at inside
      have further : word <+: here ++ lowerAfter (c :: before) rest ∨
          word <:+: lowerAfter (c :: before) rest := by
        by_cases meets : ∃ d ∈ here, d ∈ word
        · obtain ⟨d, there, own⟩ := meets
          have single := (kinds d (letters d own)).2 ((kinds d (letters d own)).1 there)
          rw [single] at inside ⊢
          exact List.infix_cons_iff.1 inside
        · exact .inr (infix_behind nonempty (fun d there own => meets ⟨d, there, own⟩) inside)
      rcases further with begins | later
      · rw [← lowered] at begins
        exact ⟨[], (prefix_lowerAfter letters before (c :: rest)).1 begins⟩
      · obtain ⟨front, spelled, behind, rfl, same⟩ := ih (c :: before) later
        exact ⟨c :: front, spelled, behind, rfl, same⟩
  · rintro ⟨front, spelled, behind, rfl, same⟩
    induction front generalizing before with
    | nil => exact ((prefix_lowerAfter letters before _).2 ⟨spelled, behind, rfl, same⟩).isInfix
    | cons c front ih =>
      obtain ⟨here, lowered, _⟩ := lowerAfter_cons before c (front ++ (spelled ++ behind))
      rw [List.cons_append, lowered]
      exact (ih (c :: before)).trans (List.suffix_append here _).isInfix

end

theorem occursIn_iff {needle text : List Char} : occursIn needle text = true ↔ needle <:+: text := by
  induction text with
  | nil => simp [occursIn]
  | cons c rest ih =>
    rw [occursIn, Bool.or_eq_true, List.isPrefixOf_iff_prefix, ih, List.infix_cons_iff]

end Text

/-! ## Money -/

/-- The native type of the column has the letters of money in it, small or capital. -/
def Column.HoldsMoney (column : Column) : Prop :=
  ∃ type ∈ column.nativeType, ∃ front spelled behind : List Char,
    type.toList = front ++ (spelled ++ behind) ∧ spelled.map Char.toLower = "money".toList

theorem isMoney_iff {column : Column} : column.isMoney = true ↔ column.HoldsMoney := by
  have letters : ∀ d ∈ "money".toList, HasOneCapital d := by
    -- Decided over the word; an instance over all characters would try each of them.
    have all : ("money".toList.all fun d => decide (HasOneCapital d)) = true := by decide
    exact fun d inside => of_decide_eq_true (List.all_eq_true.1 all d inside)
  unfold Column.isMoney Column.HoldsMoney
  rw [Option.any_eq_true]
  refine exists_congr fun type => and_congr_right fun _ => ?_
  have lowered : (lower type).toList = lowerAfter [] type.toList := String.toList_ofList
  rw [occursIn_iff, lowered]
  exact infix_lowerAfter letters (by decide) [] type.toList

instance (column : Column) : Decidable column.HoldsMoney := decidable_of_iff _ isMoney_iff
end Polyquery
