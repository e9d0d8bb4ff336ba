import Polyquery.Proofs.Phrases

/-! Selects as lists of phrases. Each clause of a select is written as phrases of its
own, and they come in the order of the grammar; so a reader who knows nothing of the
clauses finds them again, in the whole text and in what stands between the parentheses
of a derived table. -/
namespace Polyquery.Sql

variable {dialect : Dialect} {depth : Nat}

/-! ## Selects phrase by phrase -/

/-- What is written as phrases: words that begin them, each with the tokens behind
it. -/
abbrev Pieces := List (Word × Sql)

/-- The tokens of pieces, with a blank in front of each. -/
def Pieces.sql (pieces : Pieces) : Sql := pieces.flatMap fun (w, body) => .space :: .word w :: body

/-- The phrases of pieces whose placeholders are numbered from the given one on. -/
def Pieces.phrasesFrom (dialect : Dialect) : Nat → Pieces → List Phrase
  | _, [] => []
  | index, (w, body) :: rest =>
    ⟨w, lexemesFrom dialect index body⟩ :: phrasesFrom dialect (index + (bindings body).length) rest

/-- Pieces that are read as phrases. -/
def Pieces.Readable (dialect : Dialect) (pieces : Pieces) : Prop :=
  ∀ piece ∈ pieces, piece.1.beginsPhrase = true ∧ ∀ depth, PassedOver dialect depth piece.2

theorem phrases_of_pieces {pieces : Pieces} (readable : pieces.Readable dialect) (index : Nat) :
    phrasesFrom 0 (lexemesFrom dialect index pieces.sql) = ([], pieces.phrasesFrom dialect index) := by
  induction pieces generalizing index with
  | nil => rfl
  | cons piece rest ih =>
    obtain ⟨w, body⟩ := piece
    obtain ⟨⟨begins, passed⟩, others⟩ := List.forall_mem_cons.1 readable
    have behind := (passed 0 index).phrases
      (lexemesFrom dialect (index + (bindings body).length) (Pieces.sql rest))
    rw [ih others, ← lexemesFrom_append] at behind
    have opened : (Lexeme.word w).phraseWord? = some w := if_pos begins
    have shape : lexemesFrom dialect index (Pieces.sql ((w, body) :: rest)) =
      .word w :: lexemesFrom dialect index (body ++ Pieces.sql rest) := rfl
    rw [shape, phrasesFrom, opened]
    simp only [Lexeme.depthBehind, behind, Prod.map, List.append_nil, id]
    rfl

theorem phrasesFrom_append (first second : Pieces) (index : Nat) :
    Pieces.phrasesFrom dialect index (first ++ second) =
      first.phrasesFrom dialect index ++
        second.phrasesFrom dialect (index + (bindings first.sql).length) := by
  induction first generalizing index with
  | nil => rfl
  | cons piece rest ih =>
    obtain ⟨w, body⟩ := piece
    have counted : bindings (Pieces.sql ((w, body) :: rest)) =
        bindings body ++ bindings (Pieces.sql rest) := bindings_append body (Pieces.sql rest)
    rw [List.cons_append, Pieces.phrasesFrom, ih, Pieces.phrasesFrom, counted, List.length_append,
      Nat.add_assoc, List.cons_append]

theorem words_of_pieces (pieces : Pieces) (index : Nat) :
    (pieces.phrasesFrom dialect index).map Phrase.word = pieces.map Prod.fst := by
  induction pieces generalizing index with
  | nil => rfl
  | cons piece rest ih =>
    obtain ⟨w, body⟩ := piece
    rw [Pieces.phrasesFrom, List.map_cons, ih, List.map_cons]

/-- Between parentheses the phrases are passed over. -/
theorem passed_pieces {pieces : Pieces} (readable : pieces.Readable dialect) :
    PassedOver dialect (depth + 1) pieces.sql := by
  induction pieces with
  | nil => exact passed_nil
  | cons piece rest ih =>
    obtain ⟨⟨_, passed⟩, others⟩ := List.forall_mem_cons.1 readable
    exact PassedOver.append (passed_cons rfl (passed_word _ (passed _))) (ih others)

/-- `SELECT`, and behind it `TOP` where the row limit stands in front. -/
def frontPieces (dialect : Dialect) (limit offset : Option Nat) (projection : Sql) : Pieces :=
  match dialect, limit, offset with
  | .sqlServer, some n, none =>
    [(.select, []), (.top, .space :: parenthesized [.number n] ++ .space :: projection)]
  | _, _, _ => [(.select, .space :: projection)]

def joinPiece (dialect : Dialect) (join : Join) : Word × Sql :=
  (.left, .space :: .word .join :: .space :: join.table.sql dialect ++ .space :: .word .on :: .space ::
    Connective.or.join (join.on.map fun (left, right) =>
      left.sql ++ .space :: .mark .equal :: .space :: right.sql))

def conditionPieces (dialect : Dialect) (condition : Condition) : Pieces :=
  if condition.isEmpty then [] else [(.where, .space :: condition.sql dialect)]

def orderPieces (order : List SortKey) : Pieces :=
  if order.isEmpty then []
  else [(.order, .space :: .word .by :: .space :: commas (order.map SortKey.sql))]

/-- The order that sorts nothing. -/
def voidOrder : Word × Sql :=
  (.order, .space :: .word .by :: .space :: parenthesized (words [.select, .null]))

def skipPieces (offset : Option Nat) : Pieces :=
  (offset.map fun n => (.offset, [.space, .number n, .space, .word .rows])).toList

def fetchPieces (limit : Option Nat) : Pieces :=
  (limit.map fun n =>
    (.fetch, .space :: .word .next :: .space :: .number n :: .space :: words [.rows, .only])).toList

/-- The row limit at the end. -/
def limitPieces (dialect : Dialect) (limit offset : Option Nat) (ordered : Bool) : Pieces :=
  match dialect with
  | .postgres | .mysql | .mariadb =>
    (limit.map fun n => (.limit, [.space, .number n])).toList ++
      (offset.map fun n => (.offset, [.space, .number n])).toList
  | .sqlServer =>
    match offset with
    | none => []
    | some n => (if ordered then [] else [voidOrder]) ++ skipPieces (some n) ++ fetchPieces limit
  | .oracle => skipPieces offset ++ fetchPieces limit

/-- A select, phrase by phrase. -/
def Clauses.pieces (dialect : Dialect) (clauses : Clauses) (source : Sql) : Pieces :=
  frontPieces dialect clauses.limit clauses.offset clauses.projection.sql ++
    (.from, .space :: source) :: clauses.joins.map (joinPiece dialect) ++
    conditionPieces dialect clauses.condition ++ orderPieces clauses.order ++
    limitPieces dialect clauses.limit clauses.offset (!clauses.order.isEmpty)

theorem pieces_append (first second : Pieces) :
    Pieces.sql (first ++ second) = first.sql ++ second.sql := List.flatMap_append

theorem frontPieces_sql (limit offset : Option Nat) (projection : Sql) :
    (frontPieces dialect limit offset projection).sql =
      .space :: .word .select :: .space :: dialect.limitInFront limit offset ++ projection := by
  cases dialect <;> cases limit <;> cases offset <;>
    simp [frontPieces, Pieces.sql, Dialect.limitInFront]

theorem conditionPieces_sql (condition : Condition) :
    (conditionPieces dialect condition).sql = condition.clause dialect := by
  unfold conditionPieces Condition.clause
  split
  · rfl
  · exact List.flatMap_singleton _ _

theorem orderPieces_sql (order : List SortKey) : (orderPieces order).sql = orderSql order := by
  unfold orderPieces orderSql
  split
  · rfl
  · simp [Pieces.sql, words, Text.intersperse]

theorem limitPieces_sql (limit offset : Option Nat) (ordered : Bool) :
    (limitPieces dialect limit offset ordered).sql = dialect.limitBehind limit offset ordered := by
  cases dialect <;> cases limit <;> cases offset <;> cases ordered <;> rfl

/-- A select is written as its pieces are. -/
theorem clauses_sql (clauses : Clauses) (source : Sql) :
    .space :: clauses.sql dialect source = (clauses.pieces dialect source).sql := by
  have joined : Pieces.sql (clauses.joins.map (joinPiece dialect)) =
      clauses.joins.flatMap fun join => .space :: join.sql dialect := by
    rw [Pieces.sql, List.flatMap_map]
    rfl
  have sourced : Pieces.sql ((.from, .space :: source) :: clauses.joins.map (joinPiece dialect)) =
      .space :: .word .from :: .space :: source ++
        clauses.joins.flatMap fun join => .space :: join.sql dialect := by
    rw [← joined]
    rfl
  simp only [Clauses.pieces, pieces_append, frontPieces_sql, conditionPieces_sql, orderPieces_sql,
    limitPieces_sql]
  rw [sourced]
  simp [Clauses.sql]

theorem readable_append {first second : Pieces} (before : first.Readable dialect)
    (after : second.Readable dialect) : Pieces.Readable dialect (first ++ second) := by
  intro piece member
  rcases List.mem_append.1 member with there | behind
  · exact before piece there
  · exact after piece behind

theorem readable_one {w : Word} {body : Sql} (begins : w.beginsPhrase = true)
    (passed : ∀ depth, PassedOver dialect depth body) : Pieces.Readable dialect [(w, body)] := by
  intro piece member
  rw [List.mem_singleton.1 member]
  exact ⟨begins, passed⟩

theorem readable_nil : Pieces.Readable dialect [] := by
  intro piece member
  cases member

/-- A phrase about a number, if there is one. -/
theorem readable_count {piece : Nat → Word × Sql} (begins : ∀ n, (piece n).1.beginsPhrase = true)
    (quiet : ∀ n, (piece n).2.all Token.isQuiet = true) (count : Option Nat) :
    Pieces.Readable dialect (count.map piece).toList := by
  cases count with
  | none => exact readable_nil
  | some n => exact readable_one (begins n) fun _ => passed_quiet (quiet n)

theorem readable_front (limit offset : Option Nat) (projection : Projection) :
    (frontPieces dialect limit offset projection.sql).Readable dialect := by
  unfold frontPieces
  split
  · refine List.forall_mem_cons.2 ⟨⟨rfl, fun _ => passed_nil⟩, readable_one rfl fun _ => ?_⟩
    exact (passed_cons rfl (passed_parenthesized (passed_quiet rfl))).append
      (passed_cons rfl (passed_projection projection))
  · exact readable_one rfl fun _ => passed_cons rfl (passed_projection projection)

theorem readable_joins (joins : List Join) :
    Pieces.Readable dialect (joins.map (joinPiece dialect)) := by
  intro piece member
  obtain ⟨join, _, rfl⟩ := List.mem_map.1 member
  refine ⟨rfl, fun _ => PassedOver.append ?_ ?_⟩
  · exact passed_behind rfl (passed_table join.table)
  · exact passed_behind rfl (passed_equalities join.on)

theorem readable_condition (condition : Condition) :
    (conditionPieces dialect condition).Readable dialect := by
  unfold conditionPieces
  split
  · exact readable_nil
  · exact readable_one rfl fun _ => passed_cons rfl (passed_condition condition)

theorem readable_order (order : List SortKey) : (orderPieces order).Readable dialect := by
  unfold orderPieces
  split
  · exact readable_nil
  · exact readable_one rfl fun _ => passed_behind rfl (passed_keys order)

theorem readable_voidOrder : Pieces.Readable dialect [voidOrder] := by
  refine readable_one rfl fun _ => passed_behind rfl ?_
  exact passed_parenthesized (passed_word .select (passed_quiet rfl))

theorem readable_skip (offset : Option Nat) : (skipPieces offset).Readable dialect :=
  readable_count (fun _ => rfl) (fun _ => rfl) offset

theorem readable_fetch (limit : Option Nat) : (fetchPieces limit).Readable dialect :=
  readable_count (fun _ => rfl) (fun _ => rfl) limit

theorem readable_limit (limit offset : Option Nat) (ordered : Bool) :
    (limitPieces dialect limit offset ordered).Readable dialect := by
  cases dialect with
  | postgres | mysql | mariadb =>
    exact readable_append (readable_count (fun _ => rfl) (fun _ => rfl) limit)
      (readable_count (fun _ => rfl) (fun _ => rfl) offset)
  | oracle => exact readable_append (readable_skip offset) (readable_fetch limit)
  | sqlServer =>
    cases offset with
    | none => exact readable_nil
    | some n =>
      refine readable_append (readable_append ?_ (readable_skip _)) (readable_fetch limit)
      cases ordered
      · exact readable_voidOrder
      · exact readable_nil

theorem readable_clauses (clauses : Clauses) {source : Sql}
    (passed : ∀ depth, PassedOver dialect depth source) :
    (clauses.pieces dialect source).Readable dialect := by
  have withSource : Pieces.Readable dialect
      ((.from, .space :: source) :: clauses.joins.map (joinPiece dialect)) :=
    List.forall_mem_cons.2 ⟨⟨rfl, fun depth => passed_cons rfl (passed depth)⟩, readable_joins _⟩
  exact readable_append (readable_append (readable_append
    (readable_append (readable_front _ _ _) withSource) (readable_condition _)) (readable_order _))
    (readable_limit _ _ _)

/-- The blank in front of a select is not read. -/
theorem lexemes_clauses (clauses : Clauses) (source : Sql) (index : Nat) :
    lexemesFrom dialect index (clauses.sql dialect source) =
      lexemesFrom dialect index (clauses.pieces dialect source).sql := by
  rw [← clauses_sql]
  rfl

theorem passed_clauses (clauses : Clauses) {source : Sql}
    (passed : ∀ depth, PassedOver dialect depth source) :
    PassedOver dialect (depth + 1) (clauses.sql dialect source) := by
  intro index
  rw [lexemes_clauses]
  exact passed_pieces (readable_clauses clauses passed) index

/-- The source of a select, as tokens. -/
def Select.sourceSql (dialect : Dialect) : Select → Sql
  | .table source _ => source.sql dialect
  | .derived inner label _ => dialect.aliased (parenthesized (inner.sql dialect)) [.name label]

theorem select_sql (select : Select) :
    select.sql dialect = select.clauses.sql dialect (select.sourceSql dialect) := by
  cases select <;> rfl

/-- A derived table is passed over, with all that is derived inside of it. -/
theorem passed_source (select : Select) : PassedOver dialect depth (select.sourceSql dialect) := by
  induction select generalizing depth with
  | table source clauses => exact passed_table source
  | derived inner label clauses ih =>
    refine passed_aliased (passed_parenthesized ?_) (passed_quiet rfl)
    rw [select_sql]
    exact passed_clauses inner.clauses fun _ => ih

/-- The phrases of a select are its pieces, wherever it stands. -/
theorem phrases_of_select (select : Select) (index : Nat) :
    phrasesFrom 0 (lexemesFrom dialect index (select.sql dialect)) =
      ([], (select.clauses.pieces dialect (select.sourceSql dialect)).phrasesFrom dialect index) := by
  rw [select_sql, lexemes_clauses]
  exact phrases_of_pieces (readable_clauses _ fun _ => passed_source select) index

/-! ## Words in their places -/

/-- A word that is not always there. -/
def Word.onlyIf (w : Word) (said : Bool) : List Word := if said then [w] else []

/-- The words in front of `FROM`. -/
def frontWords (dialect : Dialect) (limited skipped : Bool) : List Word :=
  match dialect with
  | .sqlServer => .select :: Word.top.onlyIf (limited && !skipped)
  | .postgres | .mysql | .mariadb | .oracle => [.select]

/-- The words of the row limit at the end. -/
def limitWords (dialect : Dialect) (limited skipped ordered : Bool) : List Word :=
  match dialect with
  | .postgres | .mysql | .mariadb => Word.limit.onlyIf limited ++ Word.offset.onlyIf skipped
  | .sqlServer =>
    Word.order.onlyIf (skipped && !ordered) ++ Word.offset.onlyIf skipped ++
      Word.fetch.onlyIf (skipped && limited)
  | .oracle => Word.offset.onlyIf skipped ++ Word.fetch.onlyIf limited

/-- The words behind the joins. -/
def wordsBehind (dialect : Dialect) (conditioned ordered limited skipped : Bool) : List Word :=
  Word.where.onlyIf conditioned ++ Word.order.onlyIf ordered ++ limitWords dialect limited skipped ordered

/-- The words that begin the phrases of a select. -/
def Clauses.words (dialect : Dialect) (clauses : Clauses) : List Word :=
  frontWords dialect clauses.limit.isSome clauses.offset.isSome ++
    .from :: List.replicate clauses.joins.length .left ++
    wordsBehind dialect (!clauses.condition.isEmpty) (!clauses.order.isEmpty) clauses.limit.isSome
      clauses.offset.isSome

theorem words_of_clauses (clauses : Clauses) (source : Sql) :
    (clauses.pieces dialect source).map Prod.fst = clauses.words dialect := by
  have front : (frontPieces dialect clauses.limit clauses.offset clauses.projection.sql).map Prod.fst =
      frontWords dialect clauses.limit.isSome clauses.offset.isSome := by
    cases dialect <;> cases clauses.limit <;> cases clauses.offset <;> rfl
  have condition : (conditionPieces dialect clauses.condition).map Prod.fst =
      Word.where.onlyIf (!clauses.condition.isEmpty) := by
    unfold conditionPieces
    cases clauses.condition.isEmpty <;> rfl
  have order : (orderPieces clauses.order).map Prod.fst =
      Word.order.onlyIf (!clauses.order.isEmpty) := by
    unfold orderPieces
    cases clauses.order.isEmpty <;> rfl
  have limit : (limitPieces dialect clauses.limit clauses.offset (!clauses.order.isEmpty)).map Prod.fst =
      limitWords dialect clauses.limit.isSome clauses.offset.isSome (!clauses.order.isEmpty) := by
    cases dialect <;> cases clauses.limit <;> cases clauses.offset <;>
      cases clauses.order.isEmpty <;> rfl
  have joins : (clauses.joins.map (joinPiece dialect)).map Prod.fst =
      List.replicate clauses.joins.length .left := by
    rw [List.map_map]
    exact List.map_const'
  simp only [Clauses.pieces, List.map_append, List.map_cons, front, joins, condition, order, limit,
    Clauses.words, wordsBehind, List.append_assoc]

theorem frontWords_in_place (dialect : Dialect) (limited skipped : Bool) :
    (frontWords dialect limited skipped).Pairwise Word.Precedes ∧
      ∀ w ∈ frontWords dialect limited skipped, w.place < Word.place .from := by
  cases dialect <;> revert limited skipped <;> decide

theorem wordsBehind_in_place (dialect : Dialect) (conditioned ordered limited skipped : Bool) :
    (wordsBehind dialect conditioned ordered limited skipped).Pairwise Word.Precedes ∧
      ∀ w ∈ wordsBehind dialect conditioned ordered limited skipped, Word.place .left < w.place := by
  cases dialect <;> revert conditioned ordered limited skipped <;> decide

/-- The words of a select are in their places. -/
theorem words_in_place (dialect : Dialect) (clauses : Clauses) :
    (clauses.words dialect).Pairwise Word.Precedes := by
  obtain ⟨front, first⟩ := frontWords_in_place dialect clauses.limit.isSome clauses.offset.isSome
  obtain ⟨behind, last⟩ := wordsBehind_in_place dialect (!clauses.condition.isEmpty)
    (!clauses.order.isEmpty) clauses.limit.isSome clauses.offset.isSome
  have joins : (List.replicate clauses.joins.length Word.left).Pairwise Word.Precedes :=
    List.pairwise_replicate.2 (.inr (.inr ⟨rfl, rfl⟩))
  have source : (Word.from :: List.replicate clauses.joins.length .left).Pairwise Word.Precedes :=
    List.pairwise_cons.2 ⟨fun w member => .inl (List.eq_of_mem_replicate member ▸ by decide), joins⟩
  have sourcePlace : ∀ w ∈ Word.from :: List.replicate clauses.joins.length .left,
      Word.place .from ≤ w.place ∧ w.place ≤ Word.place .left := by
    refine List.forall_mem_cons.2 ⟨by decide, fun w member => ?_⟩
    rw [List.eq_of_mem_replicate member]
    decide
  refine List.pairwise_append.2 ⟨List.pairwise_append.2 ⟨front, source, ?_⟩, behind, ?_⟩
  · intro w before v inside
    exact .inl (Nat.lt_of_lt_of_le (first w before) (sourcePlace v inside).1)
  · intro w before v inside
    refine .inl (Nat.lt_of_le_of_lt ?_ (last v inside))
    rcases List.mem_append.1 before with there | within
    · exact Nat.le_of_lt (Nat.lt_trans (first w there) (by decide))
    · exact (sourcePlace w within).2

/-- A select is read as a query, phrase by phrase. -/
theorem phrases?_of_select (select : Select) (index : Nat) :
    phrases? (lexemesFrom dialect index (select.sql dialect)) =
      some ((select.clauses.pieces dialect (select.sourceSql dialect)).phrasesFrom dialect index) := by
  unfold phrases?
  rw [phrases_of_select]
  simp only [words_of_pieces, words_of_clauses]
  exact if_pos (words_in_place dialect select.clauses)

theorem find_from_front (limit offset : Option Nat) (projection : Sql) (index : Nat) :
    ((frontPieces dialect limit offset projection).phrasesFrom dialect index).find?
      (·.word = .from) = none := by
  unfold frontPieces
  split <;> rfl

/-- The target of an alias stands in front of it. -/
theorem aliased_begins (dialect : Dialect) (target name : Sql) :
    ∃ behind, dialect.aliased target name = target ++ behind := by
  cases dialect <;> exact ⟨_, rfl⟩

/-- The derived table of a select is found between its parentheses. In front of it no
value is bound, so its placeholders are the first. -/
theorem derived?_of_select (inner : Select) (label : String) (clauses : Clauses) (index : Nat) :
    derived? ((clauses.pieces dialect
        (Select.sourceSql dialect (.derived inner label clauses))).phrasesFrom dialect index) =
      some (lexemesFrom dialect index (inner.sql dialect)) := by
  obtain ⟨named, around⟩ := aliased_begins dialect (parenthesized (inner.sql dialect)) [.name label]
  have pieces : clauses.pieces dialect (Select.sourceSql dialect (.derived inner label clauses)) =
      frontPieces dialect clauses.limit clauses.offset clauses.projection.sql ++
        (.from, .space :: (parenthesized (inner.sql dialect) ++ named)) ::
          (clauses.joins.map (joinPiece dialect) ++ conditionPieces dialect clauses.condition ++
            orderPieces clauses.order ++
            limitPieces dialect clauses.limit clauses.offset (!clauses.order.isEmpty)) := by
    simp [Clauses.pieces, Select.sourceSql, around]
  have body (index : Nat) :
      lexemesFrom dialect index (.space :: (parenthesized (inner.sql dialect) ++ named)) =
        .mark .open :: (lexemesFrom dialect index (inner.sql dialect) ++ .mark .close ::
          lexemesFrom dialect (index + (bindings (parenthesized (inner.sql dialect))).length) named) := by
    have blank : lexemesFrom dialect index (.space :: (parenthesized (inner.sql dialect) ++ named)) =
        lexemesFrom dialect index (parenthesized (inner.sql dialect) ++ named) := rfl
    rw [blank, lexemesFrom_append, lexemes_parenthesized, List.append_assoc, List.cons_append,
      List.singleton_append]
  have passed : PassedOver dialect 1 (inner.sql dialect) := by
    rw [select_sql]
    exact passed_clauses inner.clauses fun _ => passed_source inner
  have unbound : bindings (Pieces.sql (frontPieces dialect clauses.limit clauses.offset
      clauses.projection.sql)) = [] := by
    simp [frontPieces_sql, bindings_append]
  unfold derived?
  rw [pieces, phrasesFrom_append, List.find?_append, find_from_front, Pieces.phrasesFrom, body, unbound]
  exact takeInside_passed (passed _) _

end Polyquery.Sql
