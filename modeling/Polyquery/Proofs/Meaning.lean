import Polyquery.Proofs.Leaves

/-! The text of a condition means what its tree means. A reader who knows only
the precedence of SQL finds the leaves of the tree in the text, one by one, and
combines them to the same truth value. -/
namespace Polyquery.Sql

/-! ## The meaning of a tree -/

mutual
/-- The truth value of a predicate under an assignment to its leaves, which are
counted from the given number on. -/
def Predicate.value (assign : Nat → Truth) : Nat → Predicate → Truth
  | first, .group op parts => partsValue assign op first parts
  | first, .not inner => (inner.value assign first).not
  | first, _ => assign first

/-- The truth value of predicates under a connective. -/
def partsValue (assign : Nat → Truth) : Connective → Nat → List Predicate → Truth
  | op, _, [] => op.unit
  | op, first, part :: rest =>
    op.combine (part.value assign first) (partsValue assign op (first + part.leaves.length) rest)
end

def Condition.value (assign : Nat → Truth) (first : Nat) (condition : Condition) : Truth :=
  partsValue assign condition.op first condition.parts

/-- The texts of leaves that stand one behind the other. -/
def leafTexts (dialect : Dialect) : Nat → List Predicate → List (List Char)
  | _, [] => []
  | index, leaf :: rest =>
    writeFrom dialect index (leaf.sql dialect) :: leafTexts dialect (index + leaf.ownValues.length) rest

variable {dialect : Dialect} {op : Connective} {p : Predicate} {parts : List Predicate}
  {text : List Char} {lexemes : List Lexeme}

@[simp] theorem value_group (assign : Nat → Truth) (first : Nat) :
    (Predicate.group op parts).value assign first = partsValue assign op first parts := by
  rw [Predicate.value]

@[simp] theorem value_not (assign : Nat → Truth) (first : Nat) :
    (Predicate.not p).value assign first = (p.value assign first).not := by
  rw [Predicate.value]

theorem value_leaf (assign : Nat → Truth) (first : Nat) (leaf : p.isLeaf = true) :
    p.value assign first = assign first := by
  cases p with
  | group | not => cases leaf
  | _ => rfl

theorem leafTexts_append (index : Nat) (before after : List Predicate) :
    leafTexts dialect index (before ++ after) = leafTexts dialect index before ++
      leafTexts dialect (index + (before.flatMap Predicate.ownValues).length) after := by
  induction before generalizing index with
  | nil => rfl
  | cons leaf rest ih =>
    simp only [List.cons_append, leafTexts, ih, List.flatMap_cons, List.length_append, Nat.add_assoc]

theorem leafTexts_length (index : Nat) (leaves : List Predicate) :
    (leafTexts dialect index leaves).length = leaves.length := by
  induction leaves generalizing index with
  | nil => rfl
  | cons leaf rest ih => simp [leafTexts, ih]

/-! ## Parentheses -/

theorem writeFrom_parenthesized (index : Nat) (inner : Sql) :
    writeFrom dialect index (parenthesized inner) =
      '(' :: writeFrom dialect index inner ++ [')'] := by
  have opened : writeFrom dialect index (.mark .open :: inner) =
      '(' :: writeFrom dialect index inner := rfl
  rw [parenthesized, writeFrom_append, opened]
  rfl

theorem scans_parenthesized (scans : Scans dialect text lexemes) :
    Scans dialect ('(' :: text ++ [')']) (.mark .open :: lexemes ++ [.mark .close]) := by
  have openAdmissible : (Token.mark .open).Admissible dialect [] := admissible_mark.2 (by simp)
  have closeAdmissible : (Token.mark .close).Admissible dialect [] := admissible_mark.2 (by simp)
  have close : Scans dialect (Mark.close.text.toList ++ []) [.mark .close] :=
    scans_mark closeAdmissible scans_nil
  have behindText (behind : List Char) (_ : Apart dialect behind) :
      Apart dialect (Mark.close.text.toList ++ [] ++ behind) := by
    rw [List.append_nil]
    exact apart_mark closeAdmissible behind
  exact scans_mark openAdmissible (scans.append close behindText)

/-! ## Trees -/

/-- The formula has these leaves, as a reader finds them in their texts, and this
truth value. -/
structure Formula.Expresses (dialect : Dialect) (index : Nat) (leaves : List Predicate)
    (meaning : (Nat → Truth) → Nat → Truth) (formula : Formula) : Prop where
  leaves : formula.leaves.map some = (leafTexts dialect index leaves).map (scan dialect)
  value : ∀ assign first, formula.value assign first = meaning assign first

theorem Formula.Expresses.count {index : Nat} {leaves : List Predicate} {formula : Formula}
    {meaning : (Nat → Truth) → Nat → Truth} (expresses : formula.Expresses dialect index leaves meaning) :
    formula.leaves.length = leaves.length := by
  have counted := congrArg List.length expresses.leaves
  simpa [leafTexts_length] using counted

/-- The text of the predicate is read as one operand that says what the tree
says. -/
def Understood (dialect : Dialect) (p : Predicate) : Prop :=
  ∀ index, ∃ lexemes formula, Scans dialect (writeFrom dialect index (p.sql dialect)) lexemes ∧
    Reads lexemes formula ∧
    formula.Expresses dialect index p.leaves fun assign first => p.value assign first

theorem understood_leaf (leaf : p.isLeaf = true) : Understood dialect p := by
  intro index
  obtain ⟨lexemes, scans, reads⟩ := leaf_read dialect index leaf
  refine ⟨lexemes, .leaf lexemes, scans, reads, ?_, fun assign first => ?_⟩
  · simp [Formula.leaves, leaves_leaf leaf, leafTexts, scans.scan]
  · rw [value_leaf assign first leaf, Formula.value]

theorem understood_not (inner : Understood dialect p) : Understood dialect (.not p) := by
  intro index
  obtain ⟨lexemes, formula, scans, reads, leaves, value⟩ := inner index
  have negated : (formula.not).Expresses dialect index (Predicate.not p).leaves
      fun assign first => (Predicate.not p).value assign first :=
    ⟨by simpa [Formula.leaves] using leaves, fun assign first => by
      rw [Formula.value, value, value_not]⟩
  rw [sql_not]
  split
  · exact ⟨.word .not :: lexemes, .not formula, scans_word .not scans, reads_not reads, negated⟩
  · have inParentheses : Scans dialect (writeFrom dialect index (parenthesized (p.sql dialect)))
        (.mark .open :: lexemes ++ [.mark .close]) := by
      rw [writeFrom_parenthesized]
      exact scans_parenthesized scans
    exact ⟨_, .not formula, scans_word .not inParentheses,
      reads_not (reads_parenthesized reads.whole), negated⟩

/-- The tokens of parts: the first one, then each with the connective in front. -/
theorem join_cons (op : Connective) (first : Sql) (rest : List Sql) :
    op.join (first :: rest) =
      first ++ rest.flatMap fun part => .space :: .word op.word :: .space :: part := by
  induction rest generalizing first with
  | nil => simp [Connective.join, Text.intersperse]
  | cons second more ih =>
    have others := ih second
    simp only [Connective.join] at others ⊢
    rw [Text.intersperse, others]
    · simp
    · simp

/-- One more part behind the formula of the parts in front of it. -/
theorem expresses_join {index : Nat} {before : List Predicate} {left right : Formula}
    {meaning : (Nat → Truth) → Nat → Truth} (op : Connective)
    (leftExpresses : left.Expresses dialect index before meaning)
    (rightExpresses : right.Expresses dialect
      (index + (before.flatMap Predicate.ownValues).length) p.leaves
      fun assign first => p.value assign first) :
    (Formula.join op left right).Expresses dialect index (before ++ p.leaves) fun assign first =>
      op.combine (meaning assign first) (p.value assign (first + before.length)) where
  leaves := by
    simp [Formula.leaves, leafTexts_append, leftExpresses.leaves, rightExpresses.leaves]
  value assign first := by
    rw [Formula.value, leftExpresses.value, rightExpresses.value, leftExpresses.count]

/-- The text of parts behind a first one, each with the connective in front. -/
def tailSql (dialect : Dialect) (op : Connective) (parts : List Predicate) : Sql :=
  parts.flatMap fun part => .space :: .word op.word :: .space :: part.sql dialect

theorem write_tail (index : Nat) (part : Predicate) (rest : List Predicate) :
    writeFrom dialect index (tailSql dialect op (part :: rest)) =
      ' ' :: (op.word.text.toList ++ ' ' :: (writeFrom dialect index (part.sql dialect) ++
        writeFrom dialect (index + (part.leaves.flatMap Predicate.ownValues).length)
          (tailSql dialect op rest))) := by
  have split : tailSql dialect op (part :: rest) =
      .space :: .word op.word :: .space :: (part.sql dialect ++ tailSql dialect op rest) := by
    simp [tailSql]
  have behindPart := writeFrom_append dialect index (part.sql dialect) (tailSql dialect op rest)
  rw [bindings_predicate, Predicate.values] at behindPart
  rw [split, ← behindPart]
  rfl

theorem tail_apart {index : Nat} (behind : List Char) (apart : Apart dialect behind) :
    Apart dialect (writeFrom dialect index (tailSql dialect op parts) ++ behind) := by
  cases parts with
  | nil => exact apart
  | cons part rest => exact apart_blank _

/-- Parts behind a first one are joined to it one by one. -/
theorem tail_understood (op : Connective) (each : ∀ part ∈ parts, Understood dialect part) {index : Nat}
    {before : List Predicate} {left : Formula} {meaning : (Nat → Truth) → Nat → Truth}
    (expresses : left.Expresses dialect index before meaning) :
    ∃ lexemes formula,
      Scans dialect (writeFrom dialect (index + (before.flatMap Predicate.ownValues).length)
        (tailSql dialect op parts)) lexemes ∧
      (∀ base position, Closed base → Joined op position base left →
        ∃ next, run position lexemes = some next ∧ Joined op next base formula) ∧
      formula.Expresses dialect index (before ++ parts.flatMap Predicate.leaves) fun assign first =>
        op.combine (meaning assign first) (partsValue assign op (first + before.length) parts) := by
  -- The formula of the parts so far is the left operand of the next connective, so it
  -- grows along with the induction.
  induction parts generalizing before left meaning with
  | nil =>
    refine ⟨[], left, scans_nil, fun base position closed joined => ⟨position, rfl, joined⟩, ?_, ?_⟩
    · simpa using expresses.leaves
    · intro assign first
      rw [partsValue, Connective.combine_unit, expresses.value]
  | cons part rest ih =>
    obtain ⟨partLexemes, partFormula, partScans, partReads, partExpresses⟩ :=
      each part (by simp) (index + (before.flatMap Predicate.ownValues).length)
    obtain ⟨lexemes, formula, scans, joins, whole⟩ :=
      ih (fun other member => each other (by simp [member]))
        (expresses_join op expresses partExpresses)
    refine ⟨.word op.word :: (partLexemes ++ lexemes), formula, ?_, ?_, ?_, ?_⟩
    · rw [List.flatMap_append, List.length_append, ← Nat.add_assoc] at scans
      rw [write_tail]
      exact scans_blank (scans_word op.word (partScans.append scans tail_apart))
    · intro base position closed joined
      obtain ⟨next, reached, joinedNext⟩ := joined_next closed joined partReads
      obtain ⟨final, finished, joinedFinal⟩ := joins base next closed joinedNext
      refine ⟨final, ?_, joinedFinal⟩
      rw [← List.cons_append, run_append, reached]
      exact finished
    · simpa using whole.leaves
    · intro assign first
      rw [whole.value, partsValue, Connective.combine_assoc, List.length_append, Nat.add_assoc]

/-- Parts under one connective are read as one formula that means what they
mean together. -/
theorem join_understood (op : Connective) (nonempty : parts ≠ [])
    (each : ∀ part ∈ parts, Understood dialect part) (index : Nat) :
    ∃ lexemes formula,
      Scans dialect (writeFrom dialect index (op.join (parts.map (·.sql dialect)))) lexemes ∧
      ReadsWhole lexemes formula ∧
      formula.Expresses dialect index (parts.flatMap Predicate.leaves) fun assign first =>
        partsValue assign op first parts := by
  cases parts with
  | nil => exact absurd rfl nonempty
  | cons part rest =>
    obtain ⟨firstLexemes, firstFormula, firstScans, firstReads, firstExpresses⟩ :=
      each part (by simp) index
    have others : ∀ other ∈ rest, Understood dialect other := fun other member =>
      each other (by simp [member])
    obtain ⟨lexemes, formula, scans, joins, whole⟩ := tail_understood op others firstExpresses
    refine ⟨firstLexemes ++ lexemes, formula, ?_, whole_of_joined op fun base closed => ?_, ?_, ?_⟩
    · rw [List.map_cons, join_cons, List.flatMap_map, writeFrom_append, bindings_predicate]
      exact firstScans.append scans tail_apart
    · obtain ⟨position, reached, joined⟩ := joined_first op closed firstReads
      obtain ⟨next, finished, joinedNext⟩ := joins base position closed joined
      refine ⟨next, ?_, joinedNext⟩
      rw [run_append, reached]
      exact finished
    · simpa using whole.leaves
    · intro assign first
      rw [whole.value, partsValue]

theorem understood_group (op : Connective) (nonempty : parts ≠ [])
    (each : ∀ part ∈ parts, Understood dialect part) : Understood dialect (.group op parts) := by
  by_cases single : parts.length = 1
  · obtain ⟨only, rfl⟩ := List.length_eq_one_iff.1 single
    intro index
    obtain ⟨lexemes, formula, scans, reads, leaves, value⟩ := each only (by simp) index
    refine ⟨lexemes, formula, by rwa [sql_group_one], reads, by simpa using leaves, ?_⟩
    intro assign first
    rw [value, value_group, partsValue, partsValue, Connective.combine_unit]
  · intro index
    obtain ⟨lexemes, formula, scans, reads, leaves, value⟩ :=
      join_understood op nonempty each index
    refine ⟨_, formula, ?_, reads_parenthesized reads, by simpa using leaves, by simpa using value⟩
    rw [sql_group_several dialect op single, writeFrom_parenthesized]
    exact scans_parenthesized scans

/-- Every tree without empty groups is read as what it says. -/
theorem understood (whole : p.NoEmptyGroup) : Understood dialect p := by
  induction p using Predicate.induction with
  | leaf p leaf => exact understood_leaf leaf
  | group op parts ih =>
    obtain ⟨nonempty, wholeParts⟩ := noEmptyGroup_group.1 whole
    exact understood_group op nonempty fun part member => ih part member (wholeParts part member)
  | not inner ih => exact understood_not (ih (noEmptyGroup_not.1 whole))

end Polyquery.Sql
