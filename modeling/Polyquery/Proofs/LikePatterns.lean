import Polyquery.Proofs.Predicates

/-! What stands behind `LIKE`. The tokens of a statement have a value right behind the
word for each comparison with a pattern in its conditions, in their order, and nowhere
else. This is so in every dialect without a match that ignores case by itself. -/
namespace Polyquery.Sql
open Text

/-! ## Patterns in a statement -/

/-- The values right behind `LIKE`, in tokens without blanks. -/
def behindLike : List Token → List Value
  | [] => []
  | .word .like :: .bound v :: rest => v :: behindLike rest
  | _ :: rest => behindLike rest

/-- The pattern that a leaf compares its column with, if it is such a comparison. -/
def Predicate.ownPatterns : Predicate → List Value
  | .like _ pattern => [pattern]
  | _ => []

/-- The patterns in a tree, from left to right. -/
def Predicate.patterns (p : Predicate) : List Value := p.leaves.flatMap Predicate.ownPatterns

def Condition.patterns (condition : Condition) : List Value :=
  condition.leaves.flatMap Predicate.ownPatterns

def Select.patterns : Select → List Value
  | .table _ clauses => clauses.condition.patterns
  | .derived inner _ clauses => inner.patterns ++ clauses.condition.patterns

def Statement.patterns : Statement → List Value
  | .select read => read.patterns
  | .insert _ => []
  | .update write => write.condition.patterns
  | .delete write => write.condition.patterns

theorem patterns_like (column : ColumnRef) (pattern : Value) :
    (Predicate.like column pattern).patterns = [pattern] := rfl

@[simp] theorem patterns_group (op : Connective) (parts : List Predicate) :
    (Predicate.group op parts).patterns = parts.flatMap Predicate.patterns := by
  rw [Predicate.patterns, leaves_group]
  exact List.flatMap_assoc

@[simp] theorem patterns_not (inner : Predicate) : (Predicate.not inner).patterns = inner.patterns := by
  simp [Predicate.patterns]

theorem patterns_condition (condition : Condition) :
    condition.patterns = condition.parts.flatMap Predicate.patterns := List.flatMap_assoc

/-- SQL that is read in front of anything as having these values behind `LIKE`. -/
def Shows (a : Sql) (patterns : List Value) : Prop :=
  ∀ rest, behindLike (a.filter (· ≠ .space) ++ rest) = patterns ++ behindLike rest

/-- SQL without the word. -/
def Likeless (a : Sql) : Prop := Token.word .like ∉ a

variable {dialect : Dialect} {a b : Sql}

theorem behindLike_other {token : Token} (other : token ≠ .word .like) (rest : List Token) :
    behindLike (token :: rest) = behindLike rest := by
  rw [behindLike]
  simpa using fun v more same _ => other same

theorem shows_likeless (likeless : Likeless a) : Shows a [] := by
  intro rest
  induction a with
  | nil => rfl
  | cons token others ih =>
    obtain ⟨other, further⟩ := not_or.1 fun member => likeless (List.mem_cons.2 member)
    have behind := ih further
    by_cases blank : token = .space
    · simpa [blank] using behind
    · rw [List.filter_cons_of_pos (by simpa using blank), List.cons_append,
        behindLike_other (Ne.symm other), behind]

theorem Shows.append {before behind : List Value} (first : Shows a before) (second : Shows b behind) :
    Shows (a ++ b) (before ++ behind) := by
  intro rest
  rw [List.filter_append, List.append_assoc, first, second, List.append_assoc]

theorem Shows.behind {patterns : List Value} (shows : Shows a patterns) (front : Likeless b) :
    Shows (b ++ a) patterns := (shows_likeless front).append shows

theorem Shows.before {patterns : List Value} (shows : Shows a patterns) (back : Likeless b) :
    Shows (a ++ b) patterns := by
  simpa using shows.append (shows_likeless back)

theorem Shows.parenthesized {patterns : List Value} (shows : Shows a patterns) :
    Shows (parenthesized a) patterns := by
  have opened : Likeless [.mark .open] := by simp [Likeless]
  have closed : Likeless [.mark .close] := by simp [Likeless]
  exact (shows.behind opened).before closed

/-- A separator without patterns adds none. -/
theorem shows_intersperse {separator : Sql} (silent : Likeless separator) {α : Type} {list : List α}
    {sql : α → Sql} {patterns : α → List Value} (each : ∀ a ∈ list, Shows (sql a) (patterns a)) :
    Shows (intersperse separator (list.map sql)) (list.flatMap patterns) := by
  induction list with
  | nil => exact shows_likeless (by simp [Likeless, intersperse])
  | cons first others ih =>
    obtain ⟨one, more⟩ := List.forall_mem_cons.1 each
    cases others with
    | nil => simpa [intersperse] using one
    | cons second rest =>
      rw [List.map_cons, intersperse, List.flatMap_cons]
      · simpa using (one.append (shows_likeless silent)).append (ih more)
      · simp

/-! ## Parts without patterns -/

@[simp] theorem likeless_nil : Likeless [] := by simp [Likeless]

@[simp] theorem likeless_cons {token : Token} :
    Likeless (token :: a) ↔ token ≠ .word .like ∧ Likeless a := by
  simp [Likeless, eq_comm]

@[simp] theorem likeless_append : Likeless (a ++ b) ↔ Likeless a ∧ Likeless b := by
  simp [Likeless]

theorem likeless_intersperse {separator : Sql} {parts : List Sql} (silent : Likeless separator)
    (each : ∀ part ∈ parts, Likeless part) : Likeless (intersperse separator parts) := by
  induction parts with
  | nil => simp [intersperse]
  | cons first others ih =>
    obtain ⟨one, more⟩ := List.forall_mem_cons.1 each
    cases others with
    | nil => exact one
    | cons second rest =>
      rw [intersperse]
      · simp [one, silent, ih more]
      · simp

theorem likeless_commas {parts : List Sql} (each : ∀ part ∈ parts, Likeless part) :
    Likeless (commas parts) := likeless_intersperse (by simp) each

@[simp] theorem likeless_parenthesized : Likeless (parenthesized a) ↔ Likeless a := by
  simp [parenthesized]

@[simp] theorem likeless_path (name : String) : Likeless (path name) := by
  refine likeless_intersperse (by simp) fun part member => ?_
  obtain ⟨segment, _, rfl⟩ := List.mem_map.1 member
  simp

@[simp] theorem likeless_column (ref : ColumnRef) : Likeless ref.sql := by
  obtain ⟨table, column⟩ := ref
  cases table <;> simp [ColumnRef.sql]

@[simp] theorem likeless_boundList (values : List Value) : Likeless (boundList values) := by
  refine likeless_commas fun part member => ?_
  obtain ⟨v, _, rfl⟩ := List.mem_map.1 member
  simp

@[simp] theorem likeless_aliased : Likeless (dialect.aliased a b) ↔ Likeless a ∧ Likeless b := by
  cases dialect <;> simp [Dialect.aliased]

@[simp] theorem likeless_table (table : TableRef) : Likeless (table.sql dialect) := by
  obtain ⟨name, schema, label⟩ := table
  cases schema <;> cases label <;> simp [TableRef.sql]

@[simp] theorem likeless_projection (projection : Projection) : Likeless projection.sql := by
  cases projection with
  | all => simp [Projection.sql]
  | columns outputs =>
    refine likeless_commas fun part member => ?_
    obtain ⟨output, _, rfl⟩ := List.mem_map.1 member
    unfold Output.sql
    split <;> simp

@[simp] theorem likeless_returning (returning : Option Projection) : Likeless (returningSql returning) := by
  cases returning <;> simp [returningSql]

@[simp] theorem likeless_join (join : Join) : Likeless (join.sql dialect) := by
  have equalities : Likeless (Connective.or.join (join.on.map fun pair =>
      pair.1.sql ++ .space :: .mark .equal :: .space :: pair.2.sql)) := by
    refine likeless_intersperse (by simp [Connective.word]) fun part member => ?_
    obtain ⟨pair, _, rfl⟩ := List.mem_map.1 member
    simp
  simpa [Join.sql, words, intersperse] using equalities

@[simp] theorem likeless_joins (joins : List Join) :
    Likeless (joins.flatMap fun join => .space :: join.sql dialect) := by
  induction joins with
  | nil => simp
  | cons join rest ih => simp [ih]

@[simp] theorem likeless_order (order : List SortKey) : Likeless (orderSql order) := by
  have keys : Likeless (commas (order.map SortKey.sql)) := by
    refine likeless_commas fun part member => ?_
    obtain ⟨⟨column, direction⟩, _, rfl⟩ := List.mem_map.1 member
    cases direction <;> simp [SortKey.sql]
  unfold orderSql
  split <;> simp [words, intersperse, keys]

@[simp] theorem likeless_limitInFront (limit offset : Option Nat) :
    Likeless (dialect.limitInFront limit offset) := by
  unfold Dialect.limitInFront
  split <;> simp

@[simp] theorem likeless_limitBehind (limit offset : Option Nat) (ordered : Bool) :
    Likeless (dialect.limitBehind limit offset ordered) := by
  cases dialect <;> cases limit <;> cases offset <;> cases ordered <;>
    simp [Dialect.limitBehind, Dialect.skipRows, Dialect.fetchRows, words, intersperse]

theorem likeless_tuple (row : List (Option Value)) : Likeless (Insert.tupleSql dialect row) := by
  refine likeless_parenthesized.2 (likeless_commas fun part member => ?_)
  obtain ⟨cell, _, rfl⟩ := List.mem_map.1 member
  cases cell with
  | some value => simp
  | none => cases dialect <;> simp [Dialect.missingCell]

theorem likeless_insertRows {target columns : Sql} {tuples : List Sql} (into : Likeless target)
    (named : Likeless columns) (each : ∀ tuple ∈ tuples, Likeless tuple) :
    Likeless (dialect.insertRows target columns tuples) := by
  have insertion {values : Sql} (cells : Likeless values) :
      Likeless (Dialect.insertion target columns values) := by
    simp [Dialect.insertion, into, named, cells]
  unfold Dialect.insertRows
  split
  · have insertions : Likeless (tuples.flatMap fun tuple =>
        .space :: Dialect.insertion target columns tuple) := by
      intro member
      obtain ⟨tuple, inside, here⟩ := List.mem_flatMap.1 member
      exact (likeless_cons.2 ⟨by simp, insertion (each tuple inside)⟩) here
    simp [words, intersperse, insertions]
  · simp [insertion (likeless_commas each)]

theorem likeless_insert (insert : Insert) : Likeless (insert.sql dialect) := by
  have columns : Likeless (commas (insert.columns.map fun column => [.name column])) := by
    refine likeless_commas fun part member => ?_
    obtain ⟨column, _, rfl⟩ := List.mem_map.1 member
    simp
  have target : Likeless (insert.table.sql dialect) := likeless_table insert.table
  have rows : Likeless (dialect.insertRows (insert.table.sql dialect)
      (commas (insert.columns.map fun column => [.name column]))
      (insert.rows.map (Insert.tupleSql dialect))) := by
    refine likeless_insertRows target columns fun tuple member => ?_
    obtain ⟨row, _, rfl⟩ := List.mem_map.1 member
    exact likeless_tuple row
  unfold Insert.sql
  simp only [likeless_append, likeless_returning, and_true]
  constructor
  · split
    · cases dialect <;> simp [Dialect.defaultRow, words, intersperse]
    · exact rows
  · split
    · next selected =>
      cases dialect <;> simp [Dialect.keySelection] at selected
      simp [← selected, words, intersperse]
    · simp

/-! ## Conditions -/

section
variable (folds : dialect.ignoresCase = false)
include folds

theorem shows_leaf {p : Predicate} (leaf : p.isLeaf = true) :
    Shows (p.sql dialect) p.ownPatterns := by
  cases p with
  | group | not => cases leaf
  | like column pattern =>
    have front : Likeless (.word .lower :: parenthesized column.sql ++ [.space]) := by simp
    have written : (Predicate.like column pattern).sql dialect =
        (.word .lower :: parenthesized column.sql ++ [.space]) ++
          [.word .like, .space, .bound pattern] := by
      simp [Predicate.sql, Dialect.matching, folds]
    rw [written]
    exact (shows_likeless front).append fun rest => rfl
  | oneOf column values => cases values <;> exact shows_likeless (by simp [Predicate.sql])
  | isNull column negated =>
    cases negated <;> exact shows_likeless (by simp [Predicate.sql, words, intersperse])
  | jsonFunction column function document =>
    have inside : Likeless (commas [column.sql, [.bound document]]) :=
      likeless_commas (by simp)
    cases function <;>
      exact shows_likeless (by simp [Predicate.sql, JsonFunction.word, inside])
  | compare column op value => exact shows_likeless (by simp [Predicate.sql])
  | between | containsJson | hasAny => exact shows_likeless (by simp [Predicate.sql])

/-- A tree shows the patterns of its leaves. -/
theorem shows_predicate (p : Predicate) : Shows (p.sql dialect) p.patterns := by
  induction p using Predicate.induction with
  | leaf p leaf => simpa [Predicate.patterns, leaves_leaf leaf] using shows_leaf folds leaf
  | group op parts ih =>
    rw [patterns_group]
    by_cases single : parts.length = 1
    · obtain ⟨only, rfl⟩ := List.length_eq_one_iff.1 single
      rw [sql_group_one]
      simpa using ih only (by simp)
    · rw [sql_group_several dialect op single]
      have inside : Shows (op.join (parts.map (·.sql dialect))) (parts.flatMap Predicate.patterns) :=
        shows_intersperse (by cases op <;> simp [Connective.word]) ih
      exact inside.parenthesized
  | not inner ih =>
    have word : Likeless [.word .not, .space] := by simp
    rw [sql_not, patterns_not]
    split
    · exact ih.behind word
    · exact ih.parenthesized.behind word

theorem shows_clause (condition : Condition) :
    Shows (condition.clause dialect) condition.patterns := by
  unfold Condition.clause
  split
  · next vacuous =>
    have none : condition.parts = [] := List.isEmpty_iff.1 vacuous
    rw [patterns_condition, none]
    exact shows_likeless (by simp)
  · have word : Likeless [.space, .word .where, .space] := by simp
    rw [condition_sql, patterns_condition]
    have parts : Shows (condition.op.join (condition.parts.map (·.sql dialect)))
        (condition.parts.flatMap Predicate.patterns) :=
      shows_intersperse (by cases condition.op <;> simp [Connective.word])
        fun part _ => shows_predicate folds part
    exact parts.behind word

/-! ## Statements -/

theorem shows_clauses {source : Sql} {patterns : List Value} (clauses : Clauses)
    (shows : Shows source patterns) :
    Shows (clauses.sql dialect source) (patterns ++ clauses.condition.patterns) := by
  have front : Likeless (.word .select :: .space ::
      dialect.limitInFront clauses.limit clauses.offset ++ clauses.projection.sql ++
      [.space, .word .from, .space]) := by simp
  have joins : Likeless (clauses.joins.flatMap fun join => .space :: join.sql dialect) :=
    likeless_joins clauses.joins
  have back : Likeless (orderSql clauses.order ++
      dialect.limitBehind clauses.limit clauses.offset (!clauses.order.isEmpty)) := by simp
  have whole := ((shows.behind front).before joins).append
    ((shows_clause folds clauses.condition).before back)
  simpa [Clauses.sql] using whole

theorem shows_select (select : Select) : Shows (select.sql dialect) select.patterns := by
  induction select with
  | table source clauses => exact shows_clauses folds clauses (shows_likeless (likeless_table source))
  | derived inner label clauses ih =>
    have named : Likeless [.space, .name label] ∧ Likeless [.space, .word .as, .space, .name label] := by
      simp
    have source : Shows (dialect.aliased (parenthesized (inner.sql dialect)) [.name label])
        inner.patterns := by
      cases dialect with
      | oracle => exact ih.parenthesized.before named.1
      | postgres | mysql | mariadb | sqlServer => exact ih.parenthesized.before named.2
    exact shows_clauses folds clauses source

theorem shows_statement (statement : Statement) :
    Shows (statement.sql dialect) statement.patterns := by
  cases statement with
  | select read => exact shows_select folds read
  | insert write => exact shows_likeless (likeless_insert write)
  | update write =>
    have assigned : Likeless (commas (write.assignments.map fun cell =>
        [.name cell.1, .space, .mark .equal, .space, .bound cell.2])) := by
      refine likeless_commas fun part member => ?_
      obtain ⟨cell, _, rfl⟩ := List.mem_map.1 member
      simp
    have front : Likeless (.word .update :: .space :: write.table.sql dialect ++ .space ::
        .word .set :: .space :: commas (write.assignments.map fun cell =>
          [.name cell.1, .space, .mark .equal, .space, .bound cell.2])) := by simp [assigned]
    exact ((shows_clause folds write.condition).behind front).before (likeless_returning _)
  | delete write =>
    have front : Likeless (words [.delete, .from] ++ .space :: write.table.sql dialect) := by
      simp [words, intersperse]
    exact ((shows_clause folds write.condition).behind front).before (likeless_returning _)

end

end Polyquery.Sql
