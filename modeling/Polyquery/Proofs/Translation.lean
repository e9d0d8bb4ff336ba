import Polyquery.Compile.Plan
import Polyquery.Proofs.Legibility

/-! What filters are translated to. A translated test is a single leaf, or the
containment of a nonempty list of elements, perhaps negated; containment is a
single leaf too, or a nonempty group of patterns. Nothing else is ever built. -/
namespace Polyquery
open Sql

namespace Sql

mutual
/-- Every group in the predicate has a part. -/
def Predicate.NoEmptyGroup : Predicate → Prop
  | .group _ parts => parts ≠ [] ∧ NoEmptyGroups parts
  | .not inner => inner.NoEmptyGroup
  | _ => True

def NoEmptyGroups : List Predicate → Prop
  | [] => True
  | part :: rest => part.NoEmptyGroup ∧ NoEmptyGroups rest
end

/-- Every group in the condition has a part; the condition itself may be empty. -/
def Condition.NoEmptyGroup (condition : Condition) : Prop :=
  ∀ part ∈ condition.parts, part.NoEmptyGroup

theorem noEmptyGroups_iff {parts : List Predicate} :
    NoEmptyGroups parts ↔ ∀ part ∈ parts, part.NoEmptyGroup := by
  induction parts with
  | nil => simp [NoEmptyGroups]
  | cons part rest ih => simp [NoEmptyGroups, ih]

@[simp] theorem noEmptyGroup_group {op : Connective} {parts : List Predicate} :
    (Predicate.group op parts).NoEmptyGroup ↔
      parts ≠ [] ∧ ∀ part ∈ parts, part.NoEmptyGroup := by
  rw [Predicate.NoEmptyGroup, noEmptyGroups_iff]

@[simp] theorem noEmptyGroup_not {inner : Predicate} :
    (Predicate.not inner).NoEmptyGroup ↔ inner.NoEmptyGroup := by
  rw [Predicate.NoEmptyGroup]

theorem noEmptyGroup_leaf {p : Predicate} (leaf : p.isLeaf = true) : p.NoEmptyGroup := by
  cases p with
  | group | not => cases leaf
  | _ => trivial

end Sql

/-- A predicate on one column that can be written in the dialect and has no empty
group. -/
structure Sound (dialect : Dialect) (column : ColumnRef) (p : Predicate) : Prop where
  fits : ∀ leaf ∈ p.leaves, leaf.Fits dialect
  column : ∀ leaf ∈ p.leaves, leaf.column? = some column
  noEmptyGroup : p.NoEmptyGroup

variable {dialect : Dialect} {column : ColumnRef} {p : Predicate}

theorem sound_leaf (leaf : p.isLeaf = true) (fits : p.Fits dialect)
    (on : p.column? = some column) : Sound dialect column p :=
  ⟨by simpa [leaves_leaf leaf] using fits, by simpa [leaves_leaf leaf] using on,
    noEmptyGroup_leaf leaf⟩

theorem sound_not (sound : Sound dialect column p) : Sound dialect column (.not p) :=
  ⟨by simpa using sound.fits, by simpa using sound.column, by simpa using sound.noEmptyGroup⟩

theorem sound_group {parts : List Predicate} (op : Connective) (nonempty : parts ≠ [])
    (each : ∀ part ∈ parts, Sound dialect column part) : Sound dialect column (.group op parts) where
  fits leaf inside := by
    rw [leaves_group, List.mem_flatMap] at inside
    obtain ⟨part, member, deeper⟩ := inside
    exact (each part member).fits leaf deeper
  column leaf inside := by
    rw [leaves_group, List.mem_flatMap] at inside
    obtain ⟨part, member, deeper⟩ := inside
    exact (each part member).column leaf deeper
  noEmptyGroup := noEmptyGroup_group.2 ⟨nonempty, fun part member => (each part member).noEmptyGroup⟩

theorem containment_sound {values : List Value} (any : Bool) (nonempty : values ≠ []) :
    Sound dialect column (containment dialect column values any) := by
  have patterns (op : Connective) : Sound dialect column (.group op (values.map fun value =>
      .like column (.string (elementPattern value)))) := by
    refine sound_group op (by simpa using nonempty) fun part member => ?_
    obtain ⟨value, _, rfl⟩ := List.mem_map.1 member
    exact sound_leaf rfl trivial rfl
  cases dialect with
  | postgres =>
    cases any with
    | true => exact sound_leaf rfl (show Dialect.postgres ≠ .sqlServer by decide) rfl
    | false => exact sound_leaf rfl trivial rfl
  | mysql | mariadb => exact sound_leaf rfl trivial rfl
  | sqlServer | oracle => exact patterns _

/-- The text predicate is a pattern, and only null has none. -/
theorem textPredicate_eq_some {value : Value} {pattern : String → String}
    (found : textPredicate dialect column value pattern = some p) :
    ∃ text, p = .like column (.string text) := by
  obtain ⟨text, _, rfl⟩ := Option.map_eq_some_iff.1 found
  exact ⟨_, rfl⟩

/-- Every translated test is on its column, can be written in its dialect and has
no empty group. -/
theorem predicate?_sound {test : Test Value} (found : test.predicate? dialect column = some p) :
    Sound dialect column p := by
  cases test with
  | string value | fuzzy value =>
    simp only [Test.predicate?] at found
    obtain ⟨text, rfl⟩ := textPredicate_eq_some found
    exact sound_leaf rfl trivial rfl
  | oneOf values | empty | notEmpty =>
    cases found
    exact sound_leaf rfl trivial rfl
  | equal value | notEqual value =>
    cases value <;> cases found <;> exact sound_leaf rfl trivial rfl
  | range low high =>
    simp only [Test.predicate?] at found
    split at found <;> cases found <;> exact sound_leaf rfl trivial rfl
  | contains values | containsAny values =>
    simp only [Test.predicate?] at found
    split at found
    · cases found
    · next nonempty =>
      cases found
      exact containment_sound _ (by simpa using nonempty)
  | notContains values =>
    simp only [Test.predicate?] at found
    split at found
    · cases found
    · next nonempty =>
      cases found
      exact sound_not (containment_sound false (by simpa using nonempty))

/-- The condition of filters holds only sound predicates. -/
theorem filters_condition_sound (filters : Filters Value) (dialect : Dialect) (scope : Scope) :
    ∀ part ∈ (filters.condition dialect scope).parts, ∃ column, Sound dialect column part := by
  intro part member
  obtain ⟨filter, _, translated⟩ := List.mem_filterMap.1 member
  obtain ⟨column, _, found⟩ := Option.bind_eq_some_iff.1 translated
  exact ⟨column, predicate?_sound found⟩

theorem query_condition_sound (query : Query) (dialect : Dialect) (pass : Pass)
    (aliases : Dictionary String) :
    ∀ part ∈ (query.condition dialect pass aliases).parts, ∃ column, Sound dialect column part := by
  unfold Query.condition
  split
  · exact filters_condition_sound _ dialect _
  · simp [Condition.none]

theorem query_condition_fits (query : Query) (dialect : Dialect) (pass : Pass)
    (aliases : Dictionary String) : (query.condition dialect pass aliases).Fits dialect := by
  intro leaf inside
  obtain ⟨part, member, deeper⟩ := List.mem_flatMap.1 inside
  obtain ⟨column, sound⟩ := query_condition_sound query dialect pass aliases part member
  exact sound.fits leaf deeper

end Polyquery
