import Polyquery.Proofs.Meaning

/-! Conditions that are added one after the other. However many there are and
whatever their connectives, the text behind `WHERE` asks for all of them, and
nothing is written if none of them asks for anything. -/
namespace Polyquery
open Sql

namespace Sql

/-- The truth value of conditions of which all have to hold. One that asks for
nothing is left out. -/
def conjunction (assign : Nat → Truth) : Nat → List Condition → Truth
  | _, [] => .yes
  | first, condition :: rest =>
    if condition.isEmpty then conjunction assign first rest
    else Connective.and.combine (condition.value assign first)
      (conjunction assign (first + condition.leaves.length) rest)

/-- A reader of the text understands it, with these leaves and this meaning. -/
def ReadAs (dialect : Dialect) (index : Nat) (text : List Char) (leaves : List Predicate)
    (meaning : (Nat → Truth) → Nat → Truth) : Prop :=
  ∃ lexemes formula, scan dialect text = some lexemes ∧ parse lexemes = some formula ∧
    formula.Expresses dialect index leaves meaning

/-- Between two pieces of text stands a condition that asks for all the given
ones; nothing stands there if none of them asks for anything. -/
def AsksForAll (dialect : Dialect) (before behind written : Sql) (conditions : List Condition) : Prop :=
  ∃ clause, written = before ++ (clause ++ behind) ∧
    ((∀ condition ∈ conditions, condition.isEmpty = true) → clause = []) ∧
    ((∃ condition ∈ conditions, condition.isEmpty = false) →
      ∀ index, ∃ text, writeFrom dialect index clause = " WHERE ".toList ++ text ∧
        ReadAs dialect index text (conditions.flatMap Condition.leaves) fun assign first =>
          conjunction assign first conditions)

variable {dialect : Dialect} {a b : Condition}

/-! ## Two conditions -/

theorem parts_of_isEmpty (vacuous : a.isEmpty = true) : a.parts = [] := List.isEmpty_iff.1 vacuous

theorem parts_of_not_isEmpty (asks : a.isEmpty = false) : a.parts ≠ [] := by
  intro none
  rw [Condition.isEmpty, none] at asks
  cases asks

theorem leaves_of_isEmpty (vacuous : a.isEmpty = true) : a.leaves = [] := by
  rw [Condition.leaves, parts_of_isEmpty vacuous]
  rfl

theorem and_isEmpty : (a.and b).isEmpty = (a.isEmpty && b.isEmpty) := by
  unfold Condition.and
  cases left : a.isEmpty with
  | true => rfl
  | false =>
    cases right : b.isEmpty with
    | true => simpa using left
    | false => rfl

theorem and_leaves : (a.and b).leaves = a.leaves ++ b.leaves := by
  unfold Condition.and
  split
  · next left => rw [leaves_of_isEmpty left, List.nil_append]
  · split
    · next right => rw [leaves_of_isEmpty right, List.append_nil]
    · simp [Condition.leaves]

theorem and_noEmptyGroup (left : a.NoEmptyGroup) (right : b.NoEmptyGroup) :
    (a.and b).NoEmptyGroup := by
  unfold Condition.and
  split
  · exact right
  · next asksLeft =>
    split
    · exact left
    · next asksRight =>
      intro part member
      simp only [List.mem_cons, List.not_mem_nil, or_false] at member
      rcases member with rfl | rfl
      · exact noEmptyGroup_group.2 ⟨parts_of_not_isEmpty (by simpa using asksLeft), left⟩
      · exact noEmptyGroup_group.2 ⟨parts_of_not_isEmpty (by simpa using asksRight), right⟩

/-- Merging two conditions does not change what a list of conditions asks for. -/
theorem conjunction_and (assign : Nat → Truth) (first : Nat) (rest : List Condition) :
    conjunction assign first (a.and b :: rest) = conjunction assign first (a :: b :: rest) := by
  unfold Condition.and
  cases left : a.isEmpty with
  | true => simp [conjunction, left]
  | false =>
    cases right : b.isEmpty with
    | true => simp [conjunction, left, right]
    | false =>
      have merged : (Condition.mk .and [.group a.op a.parts, .group b.op b.parts]).isEmpty = false := rfl
      have value : (Condition.mk .and [.group a.op a.parts, .group b.op b.parts]).value assign first =
          Connective.and.combine (a.value assign first) (b.value assign (first + a.leaves.length)) := by
        simp [Condition.value, partsValue, Condition.leaves]
      have leaves : (Condition.mk .and [.group a.op a.parts, .group b.op b.parts]).leaves =
          a.leaves ++ b.leaves := by simp [Condition.leaves]
      simp only [Bool.false_eq_true, ↓reduceIte, conjunction, left, right, merged, value, leaves,
        Connective.combine_assoc, List.length_append, Nat.add_assoc]

/-! ## Any number of conditions -/

/-- What is left of an empty and of a nonempty list of conditions. -/
theorem conjunction_single (assign : Nat → Truth) (first : Nat) (asks : a.isEmpty = false) :
    conjunction assign first [a] = a.value assign first := by
  rw [conjunction, asks, conjunction]
  exact Connective.combine_unit .and _

theorem merged_isEmpty (own : Condition) (added : List Condition) :
    (added.foldl Condition.and own).isEmpty = (own :: added).all Condition.isEmpty := by
  induction added generalizing own with
  | nil => simp
  | cons condition rest ih => rw [List.foldl_cons, ih]; simp [and_isEmpty, Bool.and_assoc]

theorem merged_leaves (own : Condition) (added : List Condition) :
    (added.foldl Condition.and own).leaves = (own :: added).flatMap Condition.leaves := by
  induction added generalizing own with
  | nil => simp
  | cons condition rest ih => rw [List.foldl_cons, ih]; simp [and_leaves]

theorem merged_noEmptyGroup {own : Condition} {added : List Condition} (ownWhole : own.NoEmptyGroup)
    (addedWhole : ∀ condition ∈ added, condition.NoEmptyGroup) :
    (added.foldl Condition.and own).NoEmptyGroup := by
  induction added generalizing own with
  | nil => exact ownWhole
  | cons condition rest ih =>
    exact ih (and_noEmptyGroup ownWhole (addedWhole condition (by simp)))
      fun other member => addedWhole other (by simp [member])

/-- Merging conditions one by one does not change what a list of conditions asks
for. -/
theorem conjunction_merged (assign : Nat → Truth) (first : Nat) (own : Condition)
    (added rest : List Condition) :
    conjunction assign first (added.foldl Condition.and own :: rest) =
      conjunction assign first (own :: (added ++ rest)) := by
  induction added generalizing own with
  | nil => rfl
  | cons condition others ih =>
    rw [List.foldl_cons, ih, conjunction_and]
    rfl

/-! ## Texts -/

theorem predicate_read {p : Predicate} (whole : p.NoEmptyGroup) (index : Nat) :
    ReadAs dialect index (writeFrom dialect index (p.sql dialect)) p.leaves
      fun assign first => p.value assign first := by
  have read : Understood dialect p := understood whole
  obtain ⟨lexemes, formula, scans, reads, expresses⟩ := read index
  exact ⟨lexemes, formula, scans.scan, parse_of_readsWhole reads.whole, expresses⟩

theorem condition_read (asks : a.isEmpty = false) (whole : a.NoEmptyGroup) (index : Nat) :
    ReadAs dialect index (writeFrom dialect index (a.sql dialect)) a.leaves
      fun assign first => a.value assign first := by
  have each : ∀ part ∈ a.parts, Understood dialect part := fun part member =>
    understood (whole part member)
  obtain ⟨lexemes, formula, scans, reads, expresses⟩ :=
    join_understood a.op (parts_of_not_isEmpty asks) each index
  rw [condition_sql]
  exact ⟨lexemes, formula, scans.scan, parse_of_readsWhole reads, expresses⟩

/-- The clause of merged conditions asks for all of them. -/
theorem merged_asksForAll (before behind : Sql) {own : Condition} {added : List Condition}
    (ownWhole : own.NoEmptyGroup) (addedWhole : ∀ condition ∈ added, condition.NoEmptyGroup) :
    AsksForAll dialect before behind
      (before ++ ((added.foldl Condition.and own).clause dialect ++ behind)) (own :: added) := by
  have emptiness := merged_isEmpty own added
  refine ⟨_, rfl, fun vacuous => ?_, fun ⟨condition, member, asks⟩ index => ?_⟩
  · have empty : (added.foldl Condition.and own).isEmpty = true := by
      rw [emptiness, List.all_eq_true]
      exact vacuous
    rw [Condition.clause, if_pos empty]
  · have asksMerged : (added.foldl Condition.and own).isEmpty = false := by
      rw [emptiness, List.all_eq_false]
      exact ⟨condition, member, by simp [asks]⟩
    have read : ReadAs dialect index _ _ _ :=
      condition_read asksMerged (merged_noEmptyGroup ownWhole addedWhole) index
    obtain ⟨lexemes, formula, scanned, parsed, leaves, value⟩ := read
    refine ⟨_, ?_, lexemes, formula, scanned, parsed, ?_, fun assign first => ?_⟩
    · rw [Condition.clause, asksMerged]
      rfl
    · rw [← merged_leaves]
      exact leaves
    · have single := conjunction_single assign first asksMerged
      rw [value, ← single, conjunction_merged, List.append_nil]

/-! ## Statements -/

/-- Filters of a select end up in its condition, one by one. -/
theorem foldl_select_filter (added : List Condition) (read : Select) :
    added.foldl Select.filter read = read.mapClauses fun clauses =>
      { clauses with condition := added.foldl Condition.and clauses.condition } := by
  induction added generalizing read with
  | nil => cases read <;> rfl
  | cons condition rest ih =>
    rw [List.foldl_cons, ih]
    cases read <;> rfl

theorem foldl_update_filter (added : List Condition) (write : Update) :
    added.foldl Update.filter write =
      { write with condition := added.foldl Condition.and write.condition } := by
  induction added generalizing write with
  | nil => rfl
  | cons condition rest ih => rw [List.foldl_cons, ih]; rfl

theorem foldl_delete_filter (added : List Condition) (write : Delete) :
    added.foldl Delete.filter write =
      { write with condition := added.foldl Condition.and write.condition } := by
  induction added generalizing write with
  | nil => rfl
  | cons condition rest ih => rw [List.foldl_cons, ih]; rfl

/-- The condition of a select stands between its joins and its order. -/
theorem select_around_condition (dialect : Dialect) (read : Select) :
    ∃ before behind, ∀ added : Condition → Condition,
      (read.mapClauses fun clauses => { clauses with condition := added clauses.condition }).sql dialect =
        before ++ ((added read.clauses.condition).clause dialect ++ behind) := by
  have around (clauses : Clauses) (source : Sql) : ∃ before behind, ∀ added : Condition → Condition,
      ({ clauses with condition := added clauses.condition } : Clauses).sql dialect source =
        before ++ ((added clauses.condition).clause dialect ++ behind) :=
    ⟨.word .select :: .space :: dialect.limitInFront clauses.limit clauses.offset ++
        clauses.projection.sql ++ .space :: .word .from :: .space :: source ++
        clauses.joins.flatMap (fun join => .space :: join.sql dialect),
      orderSql clauses.order ++
        dialect.limitBehind clauses.limit clauses.offset (!clauses.order.isEmpty),
      fun added => by simp [Clauses.sql]⟩
  cases read with
  | table source clauses => exact around clauses (source.sql dialect)
  | derived inner label clauses =>
    exact around clauses (dialect.aliased (parenthesized (inner.sql dialect)) [.name label])

theorem update_around_condition (dialect : Dialect) (write : Update) :
    ∃ before behind, ∀ condition, ({ write with condition } : Update).sql dialect =
      before ++ (condition.clause dialect ++ behind) :=
  ⟨({ write with condition := .none, returning := none } : Update).sql dialect,
    returningSql write.returning,
    fun condition => by simp [Update.sql, Condition.clause, Condition.none, Condition.isEmpty, returningSql]⟩

theorem delete_around_condition (dialect : Dialect) (write : Delete) :
    ∃ before behind, ∀ condition, ({ write with condition } : Delete).sql dialect =
      before ++ (condition.clause dialect ++ behind) :=
  ⟨words [.delete, .from] ++ .space :: write.table.sql dialect, returningSql write.returning,
    fun condition => by simp [Delete.sql]⟩

end Sql

/-- The text of a condition means what its tree means. Filters are translated to
trees without empty groups; a tree or a condition without empty groups is read,
from whatever placeholder on, as a formula with its leaves and its truth value;
and a statement to which conditions were added has, in one place behind `WHERE`,
the conjunction of its own condition and of all that were added. -/
theorem condition_text_means_its_tree (dialect : Dialect) :
    (∀ (filters : Filters Value) scope, (filters.condition dialect scope).NoEmptyGroup) ∧
    (∀ p : Predicate, p.NoEmptyGroup → ∀ index,
      ReadAs dialect index (writeFrom dialect index (p.sql dialect)) p.leaves
        fun assign first => p.value assign first) ∧
    (∀ condition : Condition, condition.isEmpty = false → condition.NoEmptyGroup → ∀ index,
      ReadAs dialect index (writeFrom dialect index (condition.sql dialect)) condition.leaves
        fun assign first => condition.value assign first) ∧
    (∀ read : Select, read.clauses.condition.NoEmptyGroup → ∃ before behind,
      ∀ added : List Condition, (∀ condition ∈ added, condition.NoEmptyGroup) →
        AsksForAll dialect before behind ((added.foldl Select.filter read).sql dialect)
          (read.clauses.condition :: added)) ∧
    (∀ write : Update, write.condition.NoEmptyGroup → ∃ before behind,
      ∀ added : List Condition, (∀ condition ∈ added, condition.NoEmptyGroup) →
        AsksForAll dialect before behind ((added.foldl Update.filter write).sql dialect)
          (write.condition :: added)) ∧
    (∀ write : Delete, write.condition.NoEmptyGroup → ∃ before behind,
      ∀ added : List Condition, (∀ condition ∈ added, condition.NoEmptyGroup) →
        AsksForAll dialect before behind ((added.foldl Delete.filter write).sql dialect)
          (write.condition :: added)) := by
  refine ⟨fun filters scope part member => ?_, fun p whole index => predicate_read whole index,
    fun condition asks whole index => condition_read asks whole index, ?_, ?_, ?_⟩
  · obtain ⟨column, sound⟩ := filters_condition_sound filters dialect scope part member
    exact sound.noEmptyGroup
  · intro read ownWhole
    obtain ⟨before, behind, around⟩ := select_around_condition dialect read
    refine ⟨before, behind, fun added addedWhole => ?_⟩
    rw [foldl_select_filter, around fun own => added.foldl Condition.and own]
    exact merged_asksForAll before behind ownWhole addedWhole
  · intro write ownWhole
    obtain ⟨before, behind, around⟩ := update_around_condition dialect write
    refine ⟨before, behind, fun added addedWhole => ?_⟩
    rw [foldl_update_filter, around]
    exact merged_asksForAll before behind ownWhole addedWhole
  · intro write ownWhole
    obtain ⟨before, behind, around⟩ := delete_around_condition dialect write
    refine ⟨before, behind, fun added addedWhole => ?_⟩
    rw [foldl_delete_filter, around]
    exact merged_asksForAll before behind ownWhole addedWhole

/-- Two conditions to add to a delete, with a negated group and a `BETWEEN`. -/
def paidOrNamed : Condition :=
  ⟨.or, [.compare ⟨none, "paid"⟩ .equal (.bool true),
    .not (.group .and [.isNull ⟨none, "name"⟩ true, .oneOf ⟨none, "state"⟩ []])]⟩

def withinDays : Condition :=
  ⟨.and, [.between ⟨none, "day"⟩ (.string "a") (.string "b")]⟩

theorem delete_asks_for_both :
    paidOrNamed.NoEmptyGroup ∧ withinDays.NoEmptyGroup ∧
      Sql.write .oracle
          (([paidOrNamed, withinDays].foldl Delete.filter (.of ⟨"orders", none, none⟩)).sql .oracle) =
        "DELETE FROM \"orders\" WHERE (\"paid\" = :1 OR NOT (\"name\" IS NOT NULL AND 1 = 0))" ++
          " AND \"day\" BETWEEN :2 AND :3" ∧
      ∃ before behind, AsksForAll .oracle before behind
        (([paidOrNamed, withinDays].foldl Delete.filter (.of ⟨"orders", none, none⟩)).sql .oracle)
        [.none, paidOrNamed, withinDays] := by
  have paidWhole : paidOrNamed.NoEmptyGroup := by
    simp [paidOrNamed, Condition.NoEmptyGroup, Predicate.NoEmptyGroup, NoEmptyGroups]
  have daysWhole : withinDays.NoEmptyGroup := by
    simp [withinDays, Condition.NoEmptyGroup, Predicate.NoEmptyGroup]
  obtain ⟨_, _, _, _, _, deletes⟩ := condition_text_means_its_tree .oracle
  obtain ⟨before, behind, asks⟩ :=
    deletes (.of ⟨"orders", none, none⟩) (by simp [Delete.of, Condition.NoEmptyGroup, Condition.none])
  refine ⟨paidWhole, daysWhole, by rfl, before, behind, asks _ ?_⟩
  simp [paidWhole, daysWhole]

end Polyquery
