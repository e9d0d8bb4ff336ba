import Mathlib.Data.List.Basic
import Polyquery.Compile.Key

/-! Markers of keys. A key holds a name behind a marker, else in front of one, else it is the
name: this grammar is said here without looking for a colon, and the name that a key is
resolved by is exactly the one it says. So a name without a colon may be marked on either
side, as long as it is not digits that would be taken for the marker themselves. -/
namespace Polyquery
open Text

namespace Key

/-- A marker is digits, at least one. -/
def IsMarker (text : String) : Prop := text ≠ "" ∧ ∀ c ∈ text.toList, isDigit c = true

instance (text : String) : Decidable (IsMarker text) :=
  decidable_of_iff (text ≠ "" ∧ text.toList.all isDigit = true) (and_congr_right' List.all_eq_true)

/-- The key is a marker, a colon and the name. -/
def Leading (key name : String) : Prop :=
  ∃ marker, IsMarker marker ∧ name ≠ "" ∧ key = marker ++ ":" ++ name

/-- The key is the name, a colon and a marker. -/
def Trailing (key name : String) : Prop :=
  ∃ marker, IsMarker marker ∧ name ≠ "" ∧ key = name ++ ":" ++ marker

/-- The name that a key holds. A marker in front is taken before one behind. -/
inductive Holds (key : String) : String → Prop where
  | behind {name : String} (leading : Leading key name) : Holds key name
  | before {name : String} (unled : ∀ other, ¬ Leading key other) (trailing : Trailing key name) :
    Holds key name
  | whole (unled : ∀ other, ¬ Leading key other) (untrailed : ∀ other, ¬ Trailing key other) :
    Holds key key

/-- The ways to write a name as a key. Digits are no name in front of a marker. -/
inductive Spells (name : String) : String → Prop where
  | bare : Spells name name
  | led {marker : String} (digits : IsMarker marker) : Spells name (marker ++ ":" ++ name)
  | trailed {marker : String} (digits : IsMarker marker) (worded : ¬ IsMarker name) :
    Spells name (name ++ ":" ++ marker)

/-! ## Cutting -/

theorem toList_marked (front behind : String) :
    (front ++ ":" ++ behind).toList = front.toList ++ ':' :: behind.toList := by simp

theorem isMarker_iff {text : String} :
    IsMarker text ↔ text.toList ≠ [] ∧ text.toList.all isDigit = true := by
  simp [IsMarker]

theorem colon_not_in_marker {marker : String} (digits : IsMarker marker) : ':' ∉ marker.toList := by
  intro inside
  have digit : isDigit ':' = true := digits.2 ':' inside
  cases digit

/-- What is behind a marker is found there. -/
theorem behindMarker?_eq_some {key name : String} :
    behindMarker? key.toList = some name.toList ↔ Leading key name := by
  constructor
  · intro found
    unfold behindMarker? at found
    split at found
    · next marker rest cut =>
      obtain ⟨spelled, _⟩ := cutFirst_eq_some cut
      split at found
      · next digits =>
        cases found
        simp only [Bool.and_eq_true, Bool.not_eq_true', List.isEmpty_eq_false_iff] at digits
        refine ⟨String.ofList marker, isMarker_iff.2 ?_, ?_, ?_⟩
        · rw [String.toList_ofList]
          exact digits.1
        · simpa using digits.2
        · rw [← String.toList_inj, toList_marked, String.toList_ofList, spelled]
      · cases found
    · cases found
  · rintro ⟨marker, digits, some, rfl⟩
    obtain ⟨nonempty, all⟩ := isMarker_iff.1 digits
    have rest : name.toList ≠ [] := by simpa using some
    rw [toList_marked, behindMarker?, cutFirst_append (colon_not_in_marker digits)]
    simp [nonempty, all, rest]

/-- What is in front of a marker is found there. -/
theorem beforeMarker?_eq_some {key name : String} :
    beforeMarker? key.toList = some name.toList ↔ Trailing key name := by
  constructor
  · intro found
    unfold beforeMarker? at found
    split at found
    · next before marker cut =>
      obtain ⟨spelled, _⟩ := cutLast_eq_some cut
      split at found
      · next digits =>
        cases found
        simp only [Bool.and_eq_true, Bool.not_eq_true', List.isEmpty_eq_false_iff] at digits
        refine ⟨String.ofList marker, isMarker_iff.2 ?_, ?_, ?_⟩
        · rw [String.toList_ofList]
          exact ⟨digits.1.2, digits.2⟩
        · simpa using digits.1.1
        · rw [← String.toList_inj, toList_marked, String.toList_ofList, spelled]
      · cases found
    · cases found
  · rintro ⟨marker, digits, some, rfl⟩
    obtain ⟨nonempty, all⟩ := isMarker_iff.1 digits
    have front : name.toList ≠ [] := by simpa using some
    rw [toList_marked, beforeMarker?, cutLast_append _ (colon_not_in_marker digits)]
    simp [nonempty, all, front]

/-! ## Names -/

/-- The name by which a key is resolved is the one it holds. -/
theorem holds_canonical (key : String) : Holds key (canonical key) := by
  unfold canonical canonicalChars
  cases behind : behindMarker? key.toList with
  | some name =>
    have leading : Leading key (String.ofList name) := behindMarker?_eq_some.1 (by simpa using behind)
    exact .behind leading
  | none =>
    have unled (other : String) : ¬ Leading key other := by
      intro leading
      rw [behindMarker?_eq_some.2 leading] at behind
      cases behind
    cases before : beforeMarker? key.toList with
    | some name =>
      have trailing : Trailing key (String.ofList name) := beforeMarker?_eq_some.1 (by simpa using before)
      exact .before unled trailing
    | none =>
      have untrailed (other : String) : ¬ Trailing key other := by
        intro trailing
        rw [beforeMarker?_eq_some.2 trailing] at before
        cases before
      simpa using Holds.whole unled untrailed

theorem Leading.unique {key a b : String} (first : Leading key a) (second : Leading key b) : a = b := by
  rw [← behindMarker?_eq_some] at first second
  rw [first] at second
  exact String.toList_inj.1 (Option.some.inj second)

theorem Trailing.unique {key a b : String} (first : Trailing key a) (second : Trailing key b) : a = b := by
  rw [← beforeMarker?_eq_some] at first second
  rw [first] at second
  exact String.toList_inj.1 (Option.some.inj second)

/-- A key holds one name. -/
theorem Holds.unique {key a b : String} (first : Holds key a) (second : Holds key b) : a = b := by
  cases first with
  | behind leading =>
    cases second with
    | behind other => exact leading.unique other
    | before unled | whole unled => exact absurd leading (unled _)
  | before unled trailing =>
    cases second with
    | behind other => exact absurd other (unled _)
    | before _ other => exact trailing.unique other
    | whole _ untrailed => exact absurd trailing (untrailed _)
  | whole unled untrailed =>
    cases second with
    | behind other => exact absurd other (unled _)
    | before _ other => exact absurd other (untrailed _)
    | whole => rfl

theorem canonical_eq_iff {key name : String} : canonical key = name ↔ Holds key name := by
  constructor
  · rintro rfl
    exact holds_canonical key
  · intro held
    exact (holds_canonical key).unique held

/-- A key that is not empty holds a name that is not. -/
theorem Holds.ne_empty {key name : String} (held : Holds key name) (some : key ≠ "") : name ≠ "" := by
  cases held with
  | behind leading =>
    obtain ⟨_, _, rest, _⟩ := leading
    exact rest
  | before _ trailing =>
    obtain ⟨_, _, front, _⟩ := trailing
    exact front
  | whole => exact some

/-- A name without a colon is held by the keys that spell it. -/
theorem Spells.holds {key name : String} (some : name ≠ "") (simple : ':' ∉ name.toList)
    (spelled : Spells name key) : Holds key name := by
  cases spelled with
  | bare =>
    refine .whole ?_ ?_
    · rintro other ⟨marker, _, _, rfl⟩
      exact simple (by simp)
    · rintro other ⟨marker, _, _, rfl⟩
      exact simple (by simp)
  | @led marker digits => exact .behind ⟨marker, digits, some, rfl⟩
  | @trailed marker digits worded =>
    refine .before ?_ ⟨marker, digits, some, rfl⟩
    -- A marker in front would reach to the only colon, and be the name.
    rintro other ⟨front, frontDigits, _, same⟩
    have parts := congrArg (fun text => cutFirst ':' text.toList) same
    simp only [toList_marked] at parts
    rw [cutFirst_append simple, cutFirst_append (colon_not_in_marker frontDigits)] at parts
    have taken : name = front := String.toList_inj.1 (Prod.mk.inj (Option.some.inj parts)).1
    exact worded (taken ▸ frontDigits)

end Key

/-- A key is resolved by the name it holds, and by its name alone: the marked keys of a name
without a colon lead to the same column, in the same pass, as the name itself, wherever keys
are resolved. -/
theorem keys_lose_their_marker (key : String) :
    (∀ name, Key.canonical key = name ↔ Key.Holds key name) ∧
      (key ≠ "" → Key.canonical key ≠ "") ∧
      ∀ name, name ≠ "" → ':' ∉ name.toList → Key.Spells name key →
        Key.canonical key = name ∧ ∀ scope : Scope, scope.resolve key = scope.resolve name := by
  refine ⟨fun name => Key.canonical_eq_iff, (Key.holds_canonical key).ne_empty, ?_⟩
  intro name some simple spelled
  have marked : Key.canonical key = name := Key.canonical_eq_iff.2 (spelled.holds some simple)
  have unmarked : Key.canonical name = name :=
    Key.canonical_eq_iff.2 (Key.Spells.bare.holds some simple)
  refine ⟨marked, fun scope => ?_⟩
  unfold Scope.resolve
  rw [marked, unmarked]

/-- The second filter on the names of tasks. -/
theorem second_task_name_is_unmarked :
    Key.canonical "tasks.größe:12" = "tasks.größe" ∧
      (Scope.mk "persons" .empty .related).resolve "tasks.größe:12" =
        (Scope.mk "persons" .empty .related).resolve "tasks.größe" := by
  have some : "tasks.größe" ≠ "" := by decide +kernel
  have simple : ':' ∉ "tasks.größe".toList := by decide +kernel
  have digits : Key.IsMarker "12" := by decide +kernel
  have worded : ¬ Key.IsMarker "tasks.größe" := by decide +kernel
  have spelled : Key.Spells "tasks.größe" "tasks.größe:12" := .trailed digits worded
  obtain ⟨name, resolved⟩ := (keys_lose_their_marker "tasks.größe:12").2.2 _ some simple spelled
  exact ⟨name, resolved _⟩

/-- Where both sides could be the marker, it is the one in front. -/
example : ["1:2", "1:", ":1", "a:1:2", "12:x:3"].map Key.canonical = ["2", "1:", ":1", "a:1", "x:3"] := by
  decide +kernel

end Polyquery
