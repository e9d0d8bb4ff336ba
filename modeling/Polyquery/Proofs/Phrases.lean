import Polyquery.Proofs.Leaves

/-! The phrases of a select, as a server finds them: a word that begins a clause, and
everything up to the next such word. Between parentheses no phrase begins, so what a
select says in its conditions or in a derived table does not count as its own. Every
part of a select closes the parentheses that it opens, and so a reader who is in front
of it gets behind it at the same depth. -/
namespace Polyquery.Sql

/-! ## Reading phrases -/

/-- The words that begin a phrase of a select. The row limit in front is a phrase
too. -/
def Word.beginsPhrase : Word → Bool
  | .select | .top | .from | .left | .where | .order | .limit | .offset | .fetch => true
  | _ => false

/-- A phrase, and what stands behind its first word. -/
structure Phrase where
  word : Word
  body : List Lexeme
  deriving DecidableEq

/-- How deep in parentheses a reader is behind a lexeme. -/
def Lexeme.depthBehind (depth : Nat) : Lexeme → Nat
  | .mark .open => depth + 1
  | .mark .close => depth - 1
  | _ => depth

/-- The word that a phrase would begin with. -/
def Lexeme.phraseWord? : Lexeme → Option Word
  | .word w => if w.beginsPhrase then some w else none
  | _ => none

/-- The phrases of a text that begins somewhere in parentheses, and what stands in
front of the first. -/
def phrasesFrom : Nat → List Lexeme → List Lexeme × List Phrase
  | _, [] => ([], [])
  | depth, lexeme :: rest =>
    let (body, phrases) := phrasesFrom (lexeme.depthBehind depth) rest
    match depth, lexeme.phraseWord? with
    | 0, some w => ([], ⟨w, body⟩ :: phrases)
    | _, _ => (lexeme :: body, phrases)

/-- What stands in front of the end of the outermost parentheses. -/
def takeInside : Nat → List Lexeme → Option (List Lexeme)
  | _, [] => none
  | depth, lexeme :: rest =>
    if lexeme.depthBehind depth = 0 then some []
    else (takeInside (lexeme.depthBehind depth) rest).map (lexeme :: ·)

/-- The place of a phrase in a select. -/
def Word.place : Word → Nat
  | .select => 0
  | .top => 1
  | .from => 2
  | .left => 3
  | .where => 4
  | .order => 5
  | .limit => 6
  | .offset => 7
  | .fetch => 8
  | _ => 9

/-- A phrase may stand somewhere in front of another. Only joins are repeated. -/
def Word.Precedes (first second : Word) : Prop :=
  first.place < second.place ∨ first = .left ∧ second = .left

instance (first second : Word) : Decidable (first.Precedes second) :=
  inferInstanceAs (Decidable (_ ∨ _))

/-- The phrases of a query, if it is nothing but phrases, each in its place. -/
def phrases? (lexemes : List Lexeme) : Option (List Phrase) :=
  match phrasesFrom 0 lexemes with
  | ([], phrases) => if (phrases.map Phrase.word).Pairwise Word.Precedes then some phrases else none
  | _ => none

/-- The derived table that a query selects from. -/
def derived? (phrases : List Phrase) : Option (List Lexeme) :=
  match phrases.find? (·.word = .from) with
  | some ⟨_, .mark .open :: rest⟩ => takeInside 1 rest
  | _ => none

/-! ## Passing over parts -/

/-- A reader at this depth passes over the lexemes: it finds no phrase in them and is
at the same depth behind them. -/
structure Passed (depth : Nat) (lexemes : List Lexeme) : Prop where
  phrases : ∀ behind, phrasesFrom depth (lexemes ++ behind) =
    Prod.map (lexemes ++ ·) id (phrasesFrom depth behind)
  inside : 0 < depth → ∀ behind,
    takeInside depth (lexemes ++ behind) = (takeInside depth behind).map (lexemes ++ ·)

variable {depth : Nat} {first second : List Lexeme}

theorem Passed.nil : Passed depth [] where
  phrases _ := rfl
  inside _ behind := by simp

theorem Passed.append (before : Passed depth first) (after : Passed depth second) :
    Passed depth (first ++ second) where
  phrases behind := by
    rw [List.append_assoc, before.phrases, after.phrases]
    simp [Prod.map]
  inside deep behind := by
    rw [List.append_assoc, before.inside deep, after.inside deep, Option.map_map]
    simp [Function.comp_def]

/-- A lexeme that is no parenthesis and begins no phrase here. -/
theorem Passed.single {lexeme : Lexeme} (level : lexeme.depthBehind depth = depth)
    (within : depth = 0 → lexeme.phraseWord? = none) : Passed depth [lexeme] where
  phrases behind := by
    rw [List.singleton_append, phrasesFrom, level]
    cases depth with
    | zero => rw [within rfl]; rfl
    | succ => rfl
  inside deep behind := by
    rw [List.singleton_append, takeInside, level, if_neg (Nat.ne_of_gt deep)]
    rfl

theorem Passed.parenthesized (inside : Passed (depth + 1) first) :
    Passed depth (.mark .open :: first ++ [.mark .close]) where
  phrases behind := by
    have closed : phrasesFrom (depth + 1) (.mark .close :: behind) =
        Prod.map (.mark .close :: ·) id (phrasesFrom depth behind) := by
      rw [phrasesFrom]
      rfl
    rw [List.append_assoc, List.cons_append, phrasesFrom]
    simp only [Lexeme.depthBehind, inside.phrases, List.singleton_append, closed]
    cases depth <;> simp [Lexeme.phraseWord?, Prod.map]
  inside deep behind := by
    have closed : takeInside (depth + 1) (.mark .close :: behind) =
        (takeInside depth behind).map (.mark .close :: ·) := by
      simp [takeInside, Lexeme.depthBehind, Nat.ne_of_gt deep]
    have opened : Lexeme.depthBehind depth (.mark .open) = depth + 1 := rfl
    rw [List.append_assoc, List.cons_append, takeInside, opened, if_neg (Nat.succ_ne_zero depth),
      inside.inside (Nat.succ_pos depth), List.singleton_append, closed, Option.map_map,
      Option.map_map]
    simp [Function.comp_def]

/-- What is passed over inside of parentheses is all that stands inside of them. -/
theorem takeInside_passed (inside : Passed 1 first) (behind : List Lexeme) :
    takeInside 1 (first ++ .mark .close :: behind) = some first := by
  have closed : takeInside 1 (.mark .close :: behind) = some [] := if_pos rfl
  rw [inside.inside Nat.one_pos, closed, Option.map_some, List.append_nil]

/-! ## Parts of selects -/

/-- The tokens are passed over, however their placeholders are numbered. -/
def PassedOver (dialect : Dialect) (depth : Nat) (sql : Sql) : Prop :=
  ∀ index, Passed depth (lexemesFrom dialect index sql)

/-- A token that neither opens nor closes parentheses, nor begins a phrase. -/
def Token.isQuiet : Token → Bool
  | .mark .open | .mark .close => false
  | .word w => !w.beginsPhrase
  | _ => true

variable {dialect : Dialect} {a b : Sql}

theorem passed_nil : PassedOver dialect depth [] := fun _ => .nil

theorem PassedOver.append (before : PassedOver dialect depth a) (after : PassedOver dialect depth b) :
    PassedOver dialect depth (a ++ b) := by
  intro index
  rw [lexemesFrom_append]
  exact (before index).append (after _)

theorem passed_cons {token : Token} (quiet : token.isQuiet = true)
    (rest : PassedOver dialect depth a) : PassedOver dialect depth (token :: a) := by
  intro index
  rw [lexemesFrom]
  refine Passed.append ?_ (rest _)
  cases token with
  | space => exact .nil
  | number | name | bound => exact .single rfl fun _ => rfl
  | word w =>
    have begins : w.beginsPhrase = false := by simpa [Token.isQuiet] using quiet
    exact .single rfl fun _ => by simp [Lexeme.phraseWord?, begins]
  | mark m => cases m <;> first | exact .single rfl fun _ => rfl | cases quiet

/-- A quiet token with a blank on both sides. -/
theorem passed_behind {token : Token} (quiet : token.isQuiet = true)
    (rest : PassedOver dialect depth a) :
    PassedOver dialect depth (.space :: token :: .space :: a) :=
  passed_cons rfl (passed_cons quiet (passed_cons rfl rest))

/-- Between parentheses a word begins no phrase. -/
theorem passed_word (w : Word) (rest : PassedOver dialect (depth + 1) a) :
    PassedOver dialect (depth + 1) (.word w :: a) := by
  intro index
  rw [lexemesFrom]
  exact Passed.append (.single rfl fun outermost => absurd outermost (Nat.succ_ne_zero depth)) (rest _)

theorem passed_quiet (quiet : a.all Token.isQuiet = true) : PassedOver dialect depth a := by
  induction a with
  | nil => exact passed_nil
  | cons token rest ih =>
    rw [List.all_cons, Bool.and_eq_true] at quiet
    exact passed_cons quiet.1 (ih quiet.2)

theorem passed_parenthesized (inside : PassedOver dialect (depth + 1) a) :
    PassedOver dialect depth (parenthesized a) := by
  intro index
  rw [lexemes_parenthesized]
  exact (inside index).parenthesized

theorem passed_intersperse {separator : Sql} {parts : List Sql}
    (separates : separator.all Token.isQuiet = true)
    (passed : ∀ part ∈ parts, PassedOver dialect depth part) :
    PassedOver dialect depth (Text.intersperse separator parts) := by
  induction parts with
  | nil => exact passed_nil
  | cons part others ih =>
    have partPassed := passed part (by simp)
    have othersPassed := ih fun other member => passed other (by simp [member])
    cases others with
    | nil => exact partPassed
    | cons next more =>
      rw [Text.intersperse]
      · exact (partPassed.append (passed_quiet separates)).append othersPassed
      · simp

theorem passed_commas {parts : List Sql} (passed : ∀ part ∈ parts, PassedOver dialect depth part) :
    PassedOver dialect depth (commas parts) :=
  passed_intersperse rfl passed

theorem passed_join (op : Connective) {parts : List Sql}
    (passed : ∀ part ∈ parts, PassedOver dialect depth part) :
    PassedOver dialect depth (op.join parts) :=
  passed_intersperse (by cases op <;> rfl) passed

theorem passed_path (name : String) : PassedOver dialect depth (path name) := by
  refine passed_intersperse rfl fun part member => ?_
  obtain ⟨segment, _, rfl⟩ := List.mem_map.1 member
  exact passed_quiet rfl

theorem passed_column (ref : ColumnRef) : PassedOver dialect depth ref.sql := by
  obtain ⟨table, column⟩ := ref
  cases table with
  | none => exact passed_path column
  | some table => exact (passed_path table).append (passed_cons rfl (passed_path column))

theorem passed_boundList (values : List Value) : PassedOver dialect depth (boundList values) := by
  refine passed_commas fun part member => ?_
  obtain ⟨v, _, rfl⟩ := List.mem_map.1 member
  exact passed_quiet rfl

theorem passed_matching (column : ∀ depth, PassedOver dialect depth a)
    (pattern : PassedOver dialect depth b) : PassedOver dialect depth (dialect.matching a b) := by
  unfold Dialect.matching
  split
  · exact (column depth).append (passed_behind rfl pattern)
  · exact PassedOver.append (passed_cons rfl (passed_parenthesized (column _)))
      (passed_behind rfl pattern)

theorem passed_leaf {p : Predicate} (leaf : p.isLeaf = true) :
    PassedOver dialect depth (p.sql dialect) := by
  cases p with
  | group | not => cases leaf
  | oneOf column values =>
    cases values with
    | nil => exact passed_quiet rfl
    | cons first rest =>
      exact (passed_column column).append
        (passed_behind rfl (passed_parenthesized (passed_boundList (first :: rest))))
  | compare column op value =>
    exact (passed_column column).append (passed_quiet (by cases op <;> rfl))
  | between column low high => exact (passed_column column).append (passed_quiet rfl)
  | isNull column negated =>
    exact (passed_column column).append (passed_quiet (by cases negated <;> rfl))
  | like column pattern => exact passed_matching (fun _ => passed_column column) (passed_quiet rfl)
  | containsJson column document => exact (passed_column column).append (passed_quiet rfl)
  | hasAny column values =>
    exact (((passed_column column).append (passed_quiet rfl)).append (passed_boundList values)).append
      (passed_quiet rfl)
  | jsonFunction column function document =>
    refine passed_cons (by cases function <;> rfl) (passed_parenthesized (passed_commas ?_))
    intro part member
    simp only [List.mem_cons, List.not_mem_nil, or_false] at member
    rcases member with rfl | rfl
    · exact passed_column column
    · exact passed_quiet rfl

theorem passed_predicate (p : Predicate) : PassedOver dialect depth (p.sql dialect) := by
  induction p using Predicate.induction generalizing depth with
  | leaf p leaf => exact passed_leaf leaf
  | group op parts ih =>
    by_cases single : parts.length = 1
    · obtain ⟨only, rfl⟩ := List.length_eq_one_iff.1 single
      rw [sql_group_one]
      exact ih only (by simp)
    · rw [sql_group_several dialect op single]
      refine passed_parenthesized (passed_join op fun part member => ?_)
      obtain ⟨predicate, inside, rfl⟩ := List.mem_map.1 member
      exact ih predicate inside
  | not inner ih =>
    rw [sql_not]
    refine passed_cons rfl (passed_cons rfl ?_)
    split
    · exact ih
    · exact passed_parenthesized ih

theorem passed_condition (condition : Condition) :
    PassedOver dialect depth (condition.sql dialect) := by
  rw [condition_sql]
  refine passed_join _ fun part member => ?_
  obtain ⟨predicate, _, rfl⟩ := List.mem_map.1 member
  exact passed_predicate predicate

theorem passed_aliased (target : PassedOver dialect depth a) (name : PassedOver dialect depth b) :
    PassedOver dialect depth (dialect.aliased a b) := by
  cases dialect with
  | oracle => exact target.append (passed_cons rfl name)
  | postgres | mysql | mariadb | sqlServer =>
    exact target.append (passed_behind rfl name)

theorem passed_table (table : TableRef) : PassedOver dialect depth (table.sql dialect) := by
  obtain ⟨name, schema, label⟩ := table
  cases schema <;> cases label <;>
    first | exact passed_quiet rfl | exact passed_aliased (passed_quiet rfl) (passed_quiet rfl)

theorem passed_output (output : Output) : PassedOver dialect depth output.sql := by
  unfold Output.sql
  split
  · exact ((passed_column output.column).append (passed_quiet rfl)).append (passed_quiet rfl)
  · exact ((passed_column output.column).append passed_nil).append (passed_quiet rfl)

theorem passed_projection (projection : Projection) : PassedOver dialect depth projection.sql := by
  cases projection with
  | all => exact passed_quiet rfl
  | columns outputs =>
    refine passed_commas fun part member => ?_
    obtain ⟨output, _, rfl⟩ := List.mem_map.1 member
    exact passed_output output

theorem passed_keys (order : List SortKey) :
    PassedOver dialect depth (commas (order.map SortKey.sql)) := by
  refine passed_commas fun part member => ?_
  obtain ⟨⟨column, direction⟩, _, rfl⟩ := List.mem_map.1 member
  exact (passed_column column).append (passed_quiet (by cases direction <;> rfl))

theorem passed_equalities (on : List (ColumnRef × ColumnRef)) :
    PassedOver dialect depth (Connective.or.join (on.map fun (left, right) =>
      left.sql ++ .space :: .mark .equal :: .space :: right.sql)) := by
  refine passed_join _ fun part member => ?_
  obtain ⟨⟨left, right⟩, _, rfl⟩ := List.mem_map.1 member
  exact (passed_column left).append (passed_behind rfl (passed_column right))

end Polyquery.Sql
