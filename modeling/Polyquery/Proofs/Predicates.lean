import Polyquery.Sql.Statement

/-! Predicate trees by their leaves. A leaf compares a column with values; groups
and negations only combine leaves. What is proved of trees is proved by an
induction with one case for leaves, one for groups and one for negations. -/
namespace Polyquery.Sql

/-- A predicate that is neither a group nor a negation. -/
def Predicate.isLeaf : Predicate → Bool
  | .group _ _ | .not _ => false
  | _ => true

mutual
/-- The leaves of a predicate, from left to right. -/
def Predicate.leaves : Predicate → List Predicate
  | .group _ parts => partsLeaves parts
  | .not inner => inner.leaves
  | leaf => [leaf]

def partsLeaves : List Predicate → List Predicate
  | [] => []
  | part :: rest => part.leaves ++ partsLeaves rest
end

/-- The values that a leaf compares its column with, from left to right. -/
def Predicate.ownValues : Predicate → List Value
  | .oneOf _ values | .hasAny _ values => values
  | .compare _ _ value => [value]
  | .between _ low high => [low, high]
  | .like _ pattern => [pattern]
  | .containsJson _ document | .jsonFunction _ _ document => [document]
  | .isNull _ _ | .group _ _ | .not _ => []

/-- The column that a leaf is about. -/
def Predicate.column? : Predicate → Option ColumnRef
  | .oneOf column _ | .compare column _ _ | .between column _ _ | .isNull column _ | .like column _
  | .containsJson column _ | .hasAny column _ | .jsonFunction column _ _ => some column
  | .group _ _ | .not _ => none

/-- The values of a predicate, leaf by leaf. -/
def Predicate.values (p : Predicate) : List Value := p.leaves.flatMap Predicate.ownValues

namespace Condition

/-- The leaves of a condition, from left to right. -/
def leaves (condition : Condition) : List Predicate := condition.parts.flatMap Predicate.leaves

def values (condition : Condition) : List Value := condition.leaves.flatMap Predicate.ownValues

end Condition

/-- Induction over a predicate tree. -/
@[elab_as_elim]
theorem Predicate.induction {motive : Predicate → Prop}
    (leaf : ∀ p : Predicate, p.isLeaf = true → motive p)
    (group : ∀ op parts, (∀ part ∈ parts, motive part) → motive (.group op parts))
    (not : ∀ inner, motive inner → motive (.not inner)) (p : Predicate) : motive p := by
  cases p with
  | group op parts =>
    exact group op parts fun part member => Predicate.induction leaf group not part
  | not inner => exact not inner (Predicate.induction leaf group not inner)
  | _ => exact leaf _ rfl

theorem partsLeaves_eq_flatMap (parts : List Predicate) :
    partsLeaves parts = parts.flatMap Predicate.leaves := by
  induction parts with
  | nil => rfl
  | cons part rest ih => rw [partsLeaves, ih, List.flatMap_cons]

@[simp] theorem leaves_group (op : Connective) (parts : List Predicate) :
    (Predicate.group op parts).leaves = parts.flatMap Predicate.leaves := by
  rw [Predicate.leaves, partsLeaves_eq_flatMap]

@[simp] theorem leaves_not (inner : Predicate) : (Predicate.not inner).leaves = inner.leaves := by
  rw [Predicate.leaves]

theorem leaves_leaf {p : Predicate} (leaf : p.isLeaf = true) : p.leaves = [p] := by
  cases p with
  | group | not => cases leaf
  | _ => rfl

theorem partsSql_eq_map (dialect : Dialect) (parts : List Predicate) :
    partsSql dialect parts = parts.map (·.sql dialect) := by
  induction parts with
  | nil => rfl
  | cons part rest ih => rw [partsSql, ih, List.map_cons]

/-- A group of one part is written as the part alone. -/
theorem sql_group_one (dialect : Dialect) (op : Connective) (only : Predicate) :
    (Predicate.group op [only]).sql dialect = only.sql dialect := by
  rw [Predicate.sql, partsSql_eq_map]
  rfl

/-- Every other group stands in parentheses. -/
theorem sql_group_several (dialect : Dialect) (op : Connective) {parts : List Predicate}
    (several : parts.length ≠ 1) :
    (Predicate.group op parts).sql dialect =
      parenthesized (op.join (parts.map (·.sql dialect))) := by
  rw [Predicate.sql, partsSql_eq_map]
  match parts with
  | [] | _ :: _ :: _ => rfl
  | [_] => exact absurd rfl several

/-- A negated predicate stands in parentheses, its own or others. -/
theorem sql_not (dialect : Dialect) (inner : Predicate) :
    (Predicate.not inner).sql dialect = .word .not :: .space ::
      (if inner.parenthesizes then inner.sql dialect else parenthesized (inner.sql dialect)) := by
  rw [Predicate.sql]

theorem condition_sql (dialect : Dialect) (condition : Condition) :
    condition.sql dialect = condition.op.join (condition.parts.map (·.sql dialect)) := by
  rw [Condition.sql, partsSql_eq_map]

end Polyquery.Sql
