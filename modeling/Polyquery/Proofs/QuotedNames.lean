import Polyquery.Proofs.ArrayTexts
import Polyquery.Proofs.SelectList
import Polyquery.Proofs.WriteFilters

/-! How the names of tables are quoted. A statement declares a table under a name and writes
this name as one identifier; a column is qualified with a name that is written as a dotted
path, one identifier for each segment. So what declares a table and what refers to it are the
same text exactly if there is no dot in the name. -/
namespace Polyquery
open Sql

/-! ## Parts of tokens -/

section
variable {α : Type} {part whole : List α}

theorem infix_of_right (inside : part <:+: whole) (front : List α) : part <:+: front ++ whole :=
  inside.trans (List.suffix_append front whole).isInfix

theorem infix_of_left (inside : part <:+: whole) (behind : List α) : part <:+: whole ++ behind :=
  inside.trans (List.prefix_append whole behind).isInfix

theorem infix_flatten {parts : List (List α)} (listed : part ∈ parts) : part <:+: parts.flatten := by
  obtain ⟨front, behind, rfl⟩ := List.append_of_mem listed
  exact ⟨front.flatten, behind.flatten, by simp⟩

theorem infix_flatMap {β : Type} {b : β} {list : List β} (listed : b ∈ list) (f : β → List α) :
    f b <:+: list.flatMap f :=
  infix_flatten (List.mem_map_of_mem listed)

/-- Each part is there between separators. -/
theorem part_inside_intersperse (separator : List α) {parts : List (List α)} (listed : part ∈ parts) :
    part <:+: Text.intersperse separator parts := by
  induction parts with
  | nil => cases listed
  | cons first rest ih =>
    cases rest with
    | nil =>
      rw [List.mem_singleton.1 listed]
      exact List.infix_rfl
    | cons second others =>
      rcases List.mem_cons.1 listed with rfl | later
      · exact infix_of_left (List.prefix_append _ _).isInfix _
      · exact infix_of_right (ih later) _

end

namespace Sql
variable {dialect : Dialect}

theorem infix_parenthesized (inner : Sql) : inner <:+: parenthesized inner :=
  infix_of_right (infix_of_left List.infix_rfl [Token.mark .close]) [Token.mark .open]

/-! ## Columns -/

/-- The column in the text of a leaf: the one that the leaf is about, unless it matches nothing
anyway. -/
def Predicate.written : Predicate → List ColumnRef
  | .oneOf _ [] => []
  | leaf => leaf.column?.toList

theorem column?_of_written {leaf : Predicate} {column : ColumnRef} (inside : column ∈ leaf.written) :
    leaf.column? = some column := by
  cases leaf with
  | oneOf own values =>
    cases values with
    | nil => cases inside
    | cons => exact congrArg some (List.mem_singleton.1 inside).symm
  | group | not => cases inside
  | _ => exact congrArg some (List.mem_singleton.1 inside).symm

theorem matching_inside (column pattern : Sql) : column <:+: dialect.matching column pattern := by
  unfold Dialect.matching
  split
  · exact infix_of_left List.infix_rfl _
  · exact infix_of_left (infix_of_right (infix_parenthesized column) [.word .lower]) _

theorem written_inside {leaf : Predicate} {column : ColumnRef} (inside : column ∈ leaf.written) :
    column.sql <:+: leaf.sql dialect := by
  cases leaf with
  | oneOf own values =>
    cases values with
    | nil => cases inside
    | cons first others =>
      obtain rfl := List.mem_singleton.1 inside
      exact infix_of_left List.infix_rfl _
  | compare own | between own | isNull own | containsJson own =>
    obtain rfl := List.mem_singleton.1 inside
    exact infix_of_left List.infix_rfl _
  | hasAny own =>
    obtain rfl := List.mem_singleton.1 inside
    exact infix_of_left (infix_of_left (infix_of_left List.infix_rfl _) _) _
  | like own pattern =>
    obtain rfl := List.mem_singleton.1 inside
    exact matching_inside column.sql [.bound pattern]
  | jsonFunction own function document =>
    obtain rfl := List.mem_singleton.1 inside
    have among : column.sql <:+: commas [column.sql, [.bound document]] :=
      part_inside_intersperse _ List.mem_cons_self
    exact infix_of_right (among.trans (infix_parenthesized _)) [.word function.word]
  | group | not => cases inside

/-- The leaves of a predicate are in its text. -/
theorem leaf_inside (p : Predicate) : ∀ leaf ∈ p.leaves, leaf.sql dialect <:+: p.sql dialect := by
  induction p using Predicate.induction with
  | leaf p isLeaf =>
    intro leaf inside
    rw [leaves_leaf isLeaf] at inside
    rw [List.mem_singleton.1 inside]
  | group op parts ih =>
    intro leaf inside
    rw [leaves_group] at inside
    obtain ⟨part, listed, deeper⟩ := List.mem_flatMap.1 inside
    refine (ih part listed leaf deeper).trans ?_
    by_cases single : parts.length = 1
    · obtain ⟨only, rfl⟩ := List.length_eq_one_iff.1 single
      rw [sql_group_one, List.mem_singleton.1 listed]
    · rw [sql_group_several dialect op single]
      exact (part_inside_intersperse _ (List.mem_map_of_mem listed)).trans (infix_parenthesized _)
  | not inner ih =>
    intro leaf inside
    rw [leaves_not] at inside
    refine (ih leaf inside).trans ?_
    rw [sql_not]
    have enclosed : inner.sql dialect <:+:
        if inner.parenthesizes then inner.sql dialect else parenthesized (inner.sql dialect) := by
      split
      · exact List.infix_rfl
      · exact infix_parenthesized _
    exact infix_of_right enclosed [.word .not, .space]

/-- The columns in a condition, from left to right. -/
def Condition.columns (condition : Condition) : List ColumnRef :=
  condition.leaves.flatMap Predicate.written

theorem column_inside_condition (dialect : Dialect) {condition : Condition} {column : ColumnRef}
    (inside : column ∈ condition.columns) : column.sql <:+: condition.clause dialect := by
  obtain ⟨leaf, among, own⟩ := List.mem_flatMap.1 inside
  obtain ⟨part, listed, deeper⟩ := List.mem_flatMap.1 among
  have asks : condition.isEmpty = false := by
    cases parts : condition.parts with
    | nil => simp [parts] at listed
    | cons first rest => simp [Condition.isEmpty, parts]
  have whole : part.sql dialect <:+: condition.sql dialect := by
    rw [condition_sql]
    exact part_inside_intersperse _ (List.mem_map_of_mem listed)
  rw [Condition.clause, asks]
  exact infix_of_right (((written_inside own).trans (leaf_inside part leaf deeper)).trans whole)
    [.space, .word .where, .space]

/-- The columns that a projection selects. -/
def Projection.selected : Projection → List ColumnRef
  | .all => []
  | .columns outputs => outputs.map Output.column

/-- The columns that a write returns. -/
def returned : Option Projection → List ColumnRef
  | some projection => projection.selected
  | none => []

theorem column_inside_projection {projection : Projection} {column : ColumnRef}
    (inside : column ∈ projection.selected) : column.sql <:+: projection.sql := by
  cases projection with
  | all => cases inside
  | columns outputs =>
    obtain ⟨output, listed, rfl⟩ := List.mem_map.1 inside
    have own : output.column.sql <:+: output.sql := infix_of_left (infix_of_left List.infix_rfl _) _
    exact own.trans (part_inside_intersperse _ (List.mem_map_of_mem listed))

/-- The columns that a join compares. -/
def Join.compared (join : Join) : List ColumnRef := join.on.flatMap fun pair => [pair.1, pair.2]

theorem mem_compared {join : Join} {column : ColumnRef} :
    column ∈ join.compared ↔ ∃ pair ∈ join.on, column = pair.1 ∨ column = pair.2 := by
  simp [Join.compared]

theorem column_inside_join {join : Join} {column : ColumnRef} (inside : column ∈ join.compared) :
    column.sql <:+: join.sql dialect := by
  obtain ⟨⟨left, right⟩, listed, either⟩ := mem_compared.1 inside
  have own : column.sql <:+: left.sql ++ .space :: .mark .equal :: .space :: right.sql := by
    rcases either with rfl | rfl
    · exact infix_of_left List.infix_rfl _
    · exact infix_of_right (infix_of_right List.infix_rfl [Token.space, .mark .equal, .space]) _
  have whole := part_inside_intersperse [.space, .word Connective.or.word, .space]
    (List.mem_map_of_mem (f := fun pair : ColumnRef × ColumnRef =>
      pair.1.sql ++ .space :: .mark .equal :: .space :: pair.2.sql) listed)
  exact infix_of_right
    ((own.trans whole).trans (infix_of_right List.infix_rfl [Token.space, .word .on, .space])) _

/-- What clauses compare and sort by. -/
def Clauses.compared (clauses : Clauses) : List ColumnRef :=
  clauses.joins.flatMap Join.compared ++ clauses.condition.columns ++ clauses.order.map SortKey.column

/-- The tokens of clauses in parts. -/
def Clauses.parts (dialect : Dialect) (clauses : Clauses) (source : Sql) : List Sql :=
  [.word .select :: .space :: dialect.limitInFront clauses.limit clauses.offset,
    clauses.projection.sql, [.space, .word .from, .space], source,
    clauses.joins.flatMap fun join => .space :: join.sql dialect, clauses.condition.clause dialect,
    orderSql clauses.order,
    dialect.limitBehind clauses.limit clauses.offset (!clauses.order.isEmpty)]

theorem part_inside {clauses : Clauses} {source part : Sql}
    (listed : part ∈ clauses.parts dialect source) : part <:+: clauses.sql dialect source := by
  have whole : clauses.sql dialect source = (clauses.parts dialect source).flatten := by
    simp [Clauses.sql, Clauses.parts]
  rw [whole]
  exact infix_flatten listed

theorem join_inside {clauses : Clauses} {join : Join} (source : Sql) (listed : join ∈ clauses.joins) :
    join.sql dialect <:+: clauses.sql dialect source := by
  have own := infix_flatMap listed fun join => .space :: join.sql dialect
  exact ((List.infix_cons List.infix_rfl).trans own).trans (part_inside (by simp [Clauses.parts]))

theorem order_inside {order : List SortKey} {key : SortKey} (listed : key ∈ order) :
    key.column.sql <:+: orderSql order := by
  have sorted : order.isEmpty = false := List.isEmpty_eq_false_iff_exists_mem.2 ⟨key, listed⟩
  have own : key.column.sql <:+: key.sql := infix_of_left List.infix_rfl _
  rw [orderSql, sorted]
  exact infix_of_right (own.trans (infix_of_right
    (part_inside_intersperse _ (List.mem_map_of_mem listed)) [.space])) _

theorem column_inside_clauses {clauses : Clauses} {column : ColumnRef} (source : Sql)
    (inside : column ∈ clauses.projection.selected ++ clauses.compared) :
    column.sql <:+: clauses.sql dialect source := by
  simp only [Clauses.compared, List.mem_append, List.mem_flatMap, List.mem_map] at inside
  rcases inside with selected | (⟨join, listed, own⟩ | condition) | ⟨key, listed, rfl⟩
  · exact (column_inside_projection selected).trans (part_inside (by simp [Clauses.parts]))
  · exact (column_inside_join own).trans (join_inside source listed)
  · exact (column_inside_condition dialect condition).trans (part_inside (by simp [Clauses.parts]))
  · exact (order_inside listed).trans (part_inside (by simp [Clauses.parts]))

/-! ## Declarations -/

/-- A table where a statement declares it: the name that its columns are to be qualified with,
and the tokens that give it this name. -/
structure Declaration where
  name : String
  sql : Sql

def TableRef.declaration (dialect : Dialect) (table : TableRef) : Declaration :=
  ⟨table.reference, table.sql dialect⟩

/-- What clauses declare: their source and what is joined with it. -/
def Clauses.declarations (dialect : Dialect) (source : Declaration) (clauses : Clauses) :
    List Declaration :=
  source :: clauses.joins.map (·.table.declaration dialect)

/-- A derived table as it is declared. -/
def Select.declaration (dialect : Dialect) (inner : Select) (label : String) : Declaration :=
  ⟨label, dialect.aliased (parenthesized (inner.sql dialect)) [.name label]⟩

namespace Select

/-- What a select declares, and before it the select inside. -/
def declarations (dialect : Dialect) : Select → List Declaration
  | .table source clauses => clauses.declarations dialect (source.declaration dialect)
  | .derived inner label clauses =>
    inner.declarations dialect ++ clauses.declarations dialect (inner.declaration dialect label)

/-- What a select compares and sorts by, and before it the select inside. -/
def compared : Select → List ColumnRef
  | .table _ clauses => clauses.compared
  | .derived inner _ clauses => inner.compared ++ clauses.compared

/-- What a select selects, and before it the select inside. -/
def selected : Select → List ColumnRef
  | .table _ clauses => clauses.projection.selected
  | .derived inner _ clauses => inner.selected ++ clauses.projection.selected

end Select

namespace Statement

def declarations (dialect : Dialect) : Statement → List Declaration
  | .select read => read.declarations dialect
  | .insert write => [write.table.declaration dialect]
  | .update write => [write.table.declaration dialect]
  | .delete write => [write.table.declaration dialect]

/-- The columns that a statement compares and sorts by. -/
def compared : Statement → List ColumnRef
  | .select read => read.compared
  | .insert _ => []
  | .update write => write.condition.columns
  | .delete write => write.condition.columns

/-- The columns that a statement selects or returns. -/
def selected : Statement → List ColumnRef
  | .select read => read.selected
  | .insert write => returned write.returning
  | .update write => returned write.returning
  | .delete write => returned write.returning

end Statement

/-- The tokens that declare a table are in the statement, and they end with its name, which is
one identifier there. -/
def Declaration.Stands (declaration : Declaration) (statement : Sql) : Prop :=
  declaration.sql <:+: statement ∧ [.name declaration.name] <:+ declaration.sql

theorem aliased_suffix (target name : Sql) : name <:+ dialect.aliased target name := by
  cases dialect with
  | oracle => exact (List.suffix_cons _ _).trans (List.suffix_append _ _)
  | postgres | mysql | mariadb | sqlServer =>
    have behind : name <:+ .space :: .word .as :: .space :: name :=
      List.suffix_append [Token.space, .word .as, .space] name
    exact behind.trans (List.suffix_append _ _)

theorem name_ends_table (table : TableRef) : [Token.name table.reference] <:+ table.sql dialect := by
  obtain ⟨name, schema, label⟩ := table
  cases label with
  | some label => exact aliased_suffix _ _
  | none =>
    cases schema with
    | some schema => exact List.suffix_append [Token.name schema, .mark .dot] [.name name]
    | none => exact List.suffix_rfl

theorem declarations_of_clauses (source : Declaration) {clauses : Clauses} {declaration : Declaration}
    (named : [.name source.name] <:+ source.sql)
    (declared : declaration ∈ clauses.declarations dialect source) :
    declaration.Stands (clauses.sql dialect source.sql) := by
  rcases List.mem_cons.1 declared with rfl | joined
  · exact ⟨part_inside (by simp [Clauses.parts]), named⟩
  · obtain ⟨join, listed, rfl⟩ := List.mem_map.1 joined
    have own : join.table.sql dialect <:+: join.sql dialect :=
      infix_of_left (infix_of_right (List.infix_cons List.infix_rfl) _) _
    exact ⟨own.trans (join_inside source.sql listed), name_ends_table join.table⟩

theorem derived_inside (dialect : Dialect) (inner : Select) (label : String) (clauses : Clauses) :
    inner.sql dialect <:+: (Select.derived inner label clauses).sql dialect := by
  have enclosed : inner.sql dialect <:+:
      dialect.aliased (parenthesized (inner.sql dialect)) [.name label] := by
    refine (infix_parenthesized _).trans ?_
    cases dialect <;> exact infix_of_left List.infix_rfl _
  exact enclosed.trans (part_inside (by simp [Clauses.parts]))

theorem declarations_of_select {select : Select} {declaration : Declaration}
    (declared : declaration ∈ select.declarations dialect) :
    declaration.Stands (select.sql dialect) := by
  induction select with
  | table source clauses =>
    exact declarations_of_clauses (source.declaration dialect) (name_ends_table source) declared
  | derived inner label clauses ih =>
    rcases List.mem_append.1 declared with inside | around
    · exact ⟨(ih inside).1.trans (derived_inside dialect inner label clauses), (ih inside).2⟩
    · exact declarations_of_clauses (inner.declaration dialect label) (aliased_suffix _ _) around

theorem columns_of_select {select : Select} {column : ColumnRef}
    (inside : column ∈ select.selected ++ select.compared) : column.sql <:+: select.sql dialect := by
  induction select with
  | table source clauses => exact column_inside_clauses _ inside
  | derived inner label clauses ih =>
    have cases : column ∈ inner.selected ++ inner.compared ∨
        column ∈ clauses.projection.selected ++ clauses.compared := by
      simp only [Select.selected, Select.compared, List.mem_append] at inside ⊢
      tauto
    rcases cases with within | around
    · exact (ih within).trans (derived_inside dialect inner label clauses)
    · exact column_inside_clauses _ around

theorem target_inside_insertRows (target columns : Sql) (tuples : List Sql) :
    target <:+: dialect.insertRows target columns tuples := by
  have inserted (values : Sql) : target <:+: Dialect.insertion target columns values :=
    infix_of_left (infix_of_left (infix_of_right List.infix_rfl [Token.word .into, .space]) _) _
  unfold Dialect.insertRows
  split
  · next several =>
    obtain ⟨tuple, listed⟩ := List.exists_mem_of_length_pos (Nat.zero_lt_one.trans several.2)
    have among := infix_flatMap listed fun tuple => .space :: Dialect.insertion target columns tuple
    exact infix_of_left (infix_of_right ((List.infix_cons (inserted tuple)).trans among) _) _
  · exact infix_of_right (inserted _) [.word .insert, .space]

theorem table_inside_insert (insert : Insert) : insert.table.sql dialect <:+: insert.sql dialect := by
  refine infix_of_left (infix_of_left ?_ _) _
  split
  · exact infix_of_left (infix_of_right (List.infix_cons List.infix_rfl) _) _
  · exact target_inside_insertRows _ _ _

/-- What a statement declares is in its text, and is named there. -/
theorem declarations_of_statement {statement : Statement} {declaration : Declaration}
    (declared : declaration ∈ statement.declarations dialect) :
    declaration.Stands (statement.sql dialect) := by
  cases statement with
  | select read => exact declarations_of_select declared
  | insert write =>
    obtain rfl := List.mem_singleton.1 declared
    exact ⟨table_inside_insert write, name_ends_table write.table⟩
  | update write =>
    obtain rfl := List.mem_singleton.1 declared
    exact ⟨infix_of_left (infix_of_left (infix_of_left (infix_of_right List.infix_rfl
      [Token.word .update, .space]) _) _) _, name_ends_table write.table⟩
  | delete write =>
    obtain rfl := List.mem_singleton.1 declared
    exact ⟨infix_of_left (infix_of_left (infix_of_right (List.infix_cons List.infix_rfl) _) _) _,
      name_ends_table write.table⟩

theorem column_inside_returning {returning : Option Projection} {column : ColumnRef}
    (inside : column ∈ returned returning) : column.sql <:+: returningSql returning := by
  cases returning with
  | none => cases inside
  | some projection =>
    exact infix_of_right (column_inside_projection inside) [.space, .word .returning, .space]

/-- What a statement selects, compares or sorts by is in its text. -/
theorem columns_of_statement {statement : Statement} {column : ColumnRef}
    (inside : column ∈ statement.selected ++ statement.compared) :
    column.sql <:+: statement.sql dialect := by
  cases statement with
  | select read => exact columns_of_select inside
  | insert write =>
    rw [Statement.selected, Statement.compared, List.append_nil] at inside
    exact infix_of_left (infix_of_right (column_inside_returning inside) _) _
  | update write =>
    rcases List.mem_append.1 inside with returned | compared
    · exact infix_of_right (column_inside_returning returned) _
    · exact infix_of_left (infix_of_right (column_inside_condition dialect compared) _) _
  | delete write =>
    rcases List.mem_append.1 inside with returned | compared
    · exact infix_of_right (column_inside_returning returned) _
    · exact infix_of_left (infix_of_right (column_inside_condition dialect compared) _) _

/-! ## Quotes -/

/-- Tokens without values are the same text wherever they stand. -/
theorem text_inside {part whole : Sql} (silent : bindings part = []) (inside : part <:+: whole) :
    plain dialect part <:+: writeFrom dialect 1 whole := by
  obtain ⟨front, behind, rfl⟩ := inside
  rw [writeFrom_append, writeFrom_append, writeFrom_silent silent]
  exact infix_of_left (infix_of_right List.infix_rfl _) _

/-- A qualified column is the path of its qualifier, and behind a dot its own. -/
theorem text_of_column (dialect : Dialect) (qualifier own : String) :
    writeFrom dialect 1 (ColumnRef.mk (some qualifier) own).sql =
      (dialect.quote qualifier).toList ++ '.' :: (dialect.quote own).toList := by
  simp [ColumnRef.sql, writeFrom_append, writeFrom, Token.write, Token.uses, Mark.text, Dialect.quote,
    Sql.write]

end Sql

/-- A reader finds the dots of a name in its path. -/
theorem mark_in_path (dialect : Dialect) {name : String} (dotted : '.' ∈ name.toList) :
    Lexeme.mark .dot ∈ lexemesFrom dialect 1 (path name) := by
  obtain ⟨front, behind, spelled⟩ := List.append_of_mem dotted
  have cut : name = String.ofList front ++ "." ++ String.ofList behind := by
    rw [← String.toList_inj, spelled]
    simp
  rw [cut, path_dotted, lexemesFrom_append]
  simp [lexemesFrom, Token.lexeme?]

/-- A name is the same text as a path and as one identifier exactly if there is no dot in it. -/
theorem quote_eq_quoteName_iff (dialect : Dialect) (name : String) :
    (dialect.quote name).toList = dialect.quoteName name ↔ '.' ∉ name.toList := by
  have whole : writeFrom dialect 1 [.name name] = dialect.quoteName name := by
    simp [writeFrom, Token.write]
  rw [Dialect.quote, Sql.write, String.toList_ofList, ← whole]
  constructor
  · -- A reader finds a dot in the text of the path, and none in that of the identifier.
    intro same dotted
    have parts : Legible dialect [] false (path name) := legible_path name
    have one : Legible dialect [] false [.name name] := by simp
    have reads : Scans dialect (writeFrom dialect 1 (path name)) _ := parts.scans
    have found := reads.scan
    rw [same, (one.scans : Scans dialect (writeFrom dialect 1 [.name name]) _).scan,
      Option.some.injEq] at found
    have dot := mark_in_path dialect dotted
    rw [← found] at dot
    simp [lexemesFrom, Token.lexeme?] at dot
  · intro undotted
    rw [path, Text.segments_free undotted]
    simp [Text.intersperse]

/-! ## Names of a query -/

namespace Query

/-- The column is qualified with the name by which the query refers to a table. -/
def Labels (query : Query) (column : ColumnRef) : Prop :=
  ∃ table, column.table = some (query.aliasOf table)

/-- The query as its statement names tables: a write knows no aliases. -/
def naming (query : Query) : Query := if query.operation = .read then query else query.unaliased

/-- The names under which the statement declares tables: in a read that of the page's table, of
the page, and of what is joined with it. -/
def declaredNames (query : Query) : List String :=
  if query.operation = .read then
    query.aliasOf query.tableName :: query.declaredTables.map query.aliasOf
  else [query.tableName]

variable {query : Query} {dialect : Dialect}

theorem labels_condition {pass : Pass} {column : ColumnRef}
    (inside : column ∈ (query.condition dialect pass query.aliases).columns) :
    query.Labels column := by
  obtain ⟨leaf, among, own⟩ := List.mem_flatMap.1 inside
  obtain ⟨filter, _, _, on⟩ := column_of_condition among
  obtain rfl := Option.some.inj ((column?_of_written own).symm.trans on)
  rw [filterColumn]
  split
  · exact ⟨_, rfl⟩
  · exact ⟨_, rfl⟩

theorem labels_order {key : SortKey} (inside : key ∈ query.order dialect) :
    query.Labels key.column := ⟨_, table_of_order inside⟩

theorem labels_route {route : Route} {edges : List Relationship} {joins : List Join}
    (joined : query.joinScope.joins route edges = .ok joins) {join : Join} (listed : join ∈ joins)
    {column : ColumnRef} (inside : column ∈ join.compared) : query.Labels column := by
  obtain ⟨pair, compared, either⟩ := mem_compared.1 inside
  rcases joins_ok joined with ⟨_, rfl⟩ | ⟨through, pairs, _, equal, rfl⟩
  · obtain rfl := List.mem_singleton.1 listed
    obtain ⟨edge, _, rfl⟩ := List.mem_map.1 compared
    rcases either with rfl | rfl
    · exact ⟨_, rfl⟩
    · exact ⟨_, rfl⟩
  · simp only [List.mem_cons, List.not_mem_nil, or_false] at listed
    rcases listed with rfl | rfl
    all_goals
      obtain ⟨both, ofEdges, rfl⟩ := List.mem_map.1 compared
      obtain ⟨edge, _, found⟩ := element_of_mapM_ok equal ofEdges
      obtain ⟨source, middle, destination, last⟩ := throughEqualities_tables found
      rcases either with rfl | rfl
    · exact ⟨_, source⟩
    · exact ⟨_, middle⟩
    · exact ⟨_, destination⟩
    · exact ⟨_, last⟩

theorem labels_joins {joins : List Join} (joined : query.joins = .ok joins) {join : Join}
    (listed : join ∈ joins) {column : ColumnRef} (inside : column ∈ join.compared) :
    query.Labels column := by
  obtain ⟨parts, grouped, rfl⟩ := ok_of_map_ok joined
  obtain ⟨part, ofGroups, among⟩ := List.mem_flatten.1 listed
  obtain ⟨group, _, ofGroup⟩ := element_of_mapM_ok grouped ofGroups
  exact labels_route ofGroup among inside

/-- Whatever a statement compares or sorts by is qualified with a name that the query has for a
table. -/
theorem labels_clauses {clauses : Clauses}
    (joins : ∀ join ∈ clauses.joins, ∀ column ∈ join.compared, query.Labels column)
    (condition : ∀ column ∈ clauses.condition.columns, query.Labels column)
    (order : ∀ key ∈ clauses.order, query.Labels key.column) :
    ∀ column ∈ clauses.compared, query.Labels column := by
  intro column inside
  simp only [Clauses.compared, List.mem_append, List.mem_flatMap, List.mem_map] at inside
  rcases inside with (⟨join, listed, own⟩ | inCondition) | ⟨key, listed, rfl⟩
  · exact joins join listed column own
  · exact condition column inCondition
  · exact order key listed

theorem labels_read {window : Window} {joins : List Join} (cap : Nat) (joined : query.joins = .ok joins) :
    ∀ column ∈ (Select.derived (.table query.pageTable (query.pageClauses dialect window))
      (query.aliasOf query.tableName) (query.outerClauses dialect cap joins)).compared,
        query.Labels column := by
  intro column inside
  rcases List.mem_append.1 inside with page | outer
  · exact labels_clauses (by simp [pageClauses]) (fun _ => labels_condition)
      (fun _ => labels_order) column page
  · refine labels_clauses (fun join listed column => labels_joins joined listed)
      (fun _ => labels_condition) (fun key listed => ?_) column outer
    simp only [outerClauses] at listed
    split at listed
    · exact labels_order listed
    · cases listed

/-- What is selected is qualified with what stands in front of the first dot of a field, and so
without a dot. -/
theorem undotted_of_selected {column : ColumnRef} (listed : column ∈ (query.projection dialect).selected)
    {name : String} (qualified : column.table = some name) : '.' ∉ name.toList := by
  rw [projection_eq] at listed
  split at listed
  · cases listed
  · obtain ⟨output, among, rfl⟩ := List.mem_map.1 listed
    obtain ⟨field, _, rfl⟩ := List.mem_map.1 among
    rcases fieldColumn_cases field with ⟨_, found⟩ | ⟨table, own, undotted, _, found⟩
    · simp [output, found] at qualified
    · simp only [output, found, Option.some.injEq] at qualified
      exact qualified ▸ undotted

theorem not_returned_of_whole_rows {returning : Bool} {column : ColumnRef} :
    column ∉ returned (if returning then some .all else none) := by
  cases returning <;> exact List.not_mem_nil

/-- A write declares the table that it is about, under its real name. What it returns are the
requested columns, if any, and what it compares are columns of tables under their real names. -/
theorem names_of_write {cap : Nat} {returning : Bool} {plan : Statement}
    (writes : query.operation ≠ .read) (planned : query.plan dialect cap returning = .ok plan) :
    plan.declarations dialect = [query.target.declaration dialect] ∧
      (∀ column ∈ plan.selected, column ∈ (query.projection dialect).selected) ∧
      ∀ column ∈ plan.compared, query.unaliased.Labels column := by
  have restrained : ∀ column ∈ (query.condition dialect .base .empty).columns,
      query.unaliased.Labels column := fun _ => query.unaliased.labels_condition
  unfold Query.plan at planned
  split at planned
  · next reads => exact absurd reads writes
  · obtain ⟨write, built, rfl⟩ := ok_of_map_ok planned
    obtain ⟨cells, _, rfl⟩ := insert_ok built
    exact ⟨rfl, fun _ selected => absurd selected not_returned_of_whole_rows,
      by simp [Statement.compared]⟩
  · obtain ⟨write, built, rfl⟩ := ok_of_map_ok planned
    obtain ⟨rows, _, _, rfl⟩ := bulkInsert_ok built
    exact ⟨rfl, fun _ selected => (List.not_mem_nil selected).elim, by simp [Statement.compared]⟩
  · obtain ⟨write, built, rfl⟩ := ok_of_map_ok planned
    rw [update_eq] at built
    obtain ⟨cells, _, rfl⟩ := ok_of_map_ok built
    exact ⟨rfl, fun _ selected => absurd selected not_returned_of_whole_rows, restrained⟩
  · cases planned
    refine ⟨rfl, fun column selected => ?_, restrained⟩
    cases returning with
    | true => exact selected
    | false => cases selected
  all_goals cases planned

/-- A read declares the page's table and the page under one name, and behind them what is
joined. -/
theorem declared_read (dialect : Dialect) (window : Window) (cap : Nat) {joins : List Join}
    (joined : query.joins = .ok joins) :
    ((Select.derived (.table query.pageTable (query.pageClauses dialect window))
      (query.aliasOf query.tableName) (query.outerClauses dialect cap joins)).declarations dialect).map
        Declaration.name = query.aliasOf query.tableName :: query.declaredTables.map query.aliasOf := by
  have page : query.pageTable.reference = query.aliasOf query.tableName :=
    reference_table query query.tableName
  rw [← declared_outer dialect cap joined, ← page]
  simp [Select.declarations, Clauses.declarations, Clauses.declared, TableRef.declaration,
    Select.declaration, pageClauses, page]

/-- The names of a plan: those of its declarations, those that the columns are qualified with, and
none with a dot among those of the selected columns. -/
theorem names_of_plan {cap : Nat} {returning : Bool} {plan : Statement}
    (planned : query.plan dialect cap returning = .ok plan) :
    (plan.declarations dialect).map Declaration.name = query.declaredNames ∧
      (∀ column ∈ plan.compared, query.naming.Labels column) ∧
      ∀ column ∈ plan.selected, ∀ name ∈ column.table, '.' ∉ name.toList := by
  by_cases reads : query.operation = .read
  · have selected := planned
    rw [Query.plan, reads] at selected
    obtain ⟨read, built, rfl⟩ := ok_of_map_ok selected
    obtain ⟨window, joins, _, joined, rfl⟩ := select_ok built
    rw [declaredNames, if_pos reads, naming, if_pos reads]
    exact ⟨declared_read dialect window cap joined, labels_read cap joined,
      fun _ selected _ => undotted_of_selected selected⟩
  · obtain ⟨declares, selects, compares⟩ := names_of_write reads planned
    rw [declaredNames, if_neg reads, naming, if_neg reads, declares]
    exact ⟨rfl, compares, fun column selected _ => undotted_of_selected (selects column selected)⟩

end Query

/-- A statement declares a table with its name as one identifier, and qualifies columns with the
dotted path of a name; both are in its text. A read has the names by which the query refers to
tables, and a write has their real names. The two texts of a name are the same exactly if there is
no dot in it; so a declared name with a dot in it is not found by the columns that are qualified
with it. Selected columns are never qualified with such a name. -/
theorem names_are_declared_whole_and_used_in_parts {compiler : Compiler} {query : Query}
    {compiled : Compiled} (compiles : compiler.compile query = .ok compiled) :
    ∃ plan, query.plan compiler.dialect compiler.rowCap compiler.returning = .ok plan ∧
      compiled = compiler.write query.operation plan ∧
      (plan.declarations compiler.dialect).map Declaration.name = query.declaredNames ∧
      (∀ column ∈ plan.compared, query.naming.Labels column) ∧
      (∀ column ∈ plan.selected, ∀ name ∈ column.table, '.' ∉ name.toList) ∧
      ∀ declaration ∈ plan.declarations compiler.dialect,
        declaration.Stands (plan.sql compiler.dialect) ∧
        compiler.dialect.quoteName declaration.name <:+: compiled.text.toList ∧
        (∀ column ∈ plan.selected ++ plan.compared, column.table = some declaration.name →
          (compiler.dialect.quote declaration.name).toList ++
            '.' :: (compiler.dialect.quote column.column).toList <:+: compiled.text.toList) ∧
        ((compiler.dialect.quote declaration.name).toList =
            compiler.dialect.quoteName declaration.name ↔ '.' ∉ declaration.name.toList) := by
  obtain ⟨plan, planned, rfl⟩ := Query.ok_of_map_ok compiles
  obtain ⟨declared, compared, selected⟩ := Query.names_of_plan planned
  refine ⟨plan, planned, rfl, declared, compared, selected, fun declaration listed => ?_⟩
  have stands := declarations_of_statement listed
  refine ⟨stands, ?_, fun column inside qualified => ?_, quote_eq_quoteName_iff _ _⟩
  · have named : plain compiler.dialect [.name declaration.name] <:+:
        writeFrom compiler.dialect 1 (plan.sql compiler.dialect) :=
      text_inside rfl (stands.2.isInfix.trans stands.1)
    simpa [plain, writeFrom, Token.write] using named
  · obtain ⟨_, own⟩ := column
    cases qualified
    rw [← text_of_column, Compiler.write_text]
    exact text_inside (bindings_column _) (columns_of_statement inside)

/-- Orders and their customers, whose alias has a dot in it. -/
def ordersOfMyCustomers : Query :=
  { Query.plain "orders" .read with
    aliases := .ofList [("orders", "o"), ("customers", "my.customers")]
    relationships := [.direct "customers" "customer_id" "id"]
    filters := some ⟨false, [⟨"customers.city", .equal (.string "Graz")⟩]⟩ }

theorem my_customers_are_used_in_parts :
    ∃ compiled, (Compiler.of .mysql 10).compile ordersOfMyCustomers = .ok compiled ∧
      ∃ plan, compiled = (Compiler.of .mysql 10).write .read plan ∧
        (plan.declarations .mysql).map Declaration.name = ["o", "o", "my.customers"] ∧
        ⟨some "my.customers", "city"⟩ ∈ plan.compared ∧
        ∀ declaration ∈ plan.declarations .mysql, Dialect.mysql.quoteName declaration.name <:+:
            compiled.text.toList ∧
          ((Dialect.mysql.quote declaration.name).toList = Dialect.mysql.quoteName declaration.name ↔
            '.' ∉ declaration.name.toList) := by
  have compiles : (Compiler.of .mysql 10).compile ordersOfMyCustomers = .ok _ := rfl
  obtain ⟨plan, planned, written, declared, _, _, each⟩ :=
    names_are_declared_whole_and_used_in_parts compiles
  refine ⟨_, compiles, plan, written, declared, ?_, fun declaration listed =>
    ⟨(each declaration listed).2.1, (each declaration listed).2.2.2⟩⟩
  cases planned
  decide +kernel

/-- The person with a number, in a table whose name has a dot in it. -/
def personOfCrm : Query :=
  { Query.plain "crm.persons" .read with
    filters := some ⟨false, [⟨"id", .equal (.number (.ofInt64 1))⟩]⟩ }

/-- Not every name is quoted the same way where it is declared and where it is used. -/
theorem table_of_crm_is_used_in_parts :
    (∃ compiled, (Compiler.of .postgres 5000).compile personOfCrm = .ok compiled ∧
      compiled.text = "SELECT * FROM (SELECT * FROM \"crm.persons\"" ++
        " WHERE \"crm\".\"persons\".\"id\" = $1 LIMIT 5000) AS \"crm.persons\"") ∧
    ¬ ∀ (compiler : Compiler) (query : Query) (compiled : Compiled),
      query.operation ∈ [.read, .update, .delete] → compiler.compile query = .ok compiled →
      ∃ plan, query.plan compiler.dialect compiler.rowCap compiler.returning = .ok plan ∧
        ∀ declaration ∈ plan.declarations compiler.dialect, ∀ column ∈ plan.selected ++ plan.compared,
          column.table = some declaration.name →
            (compiler.dialect.quote declaration.name).toList =
              compiler.dialect.quoteName declaration.name := by
  refine ⟨⟨_, rfl, by decide +kernel⟩, fun claimed => ?_⟩
  obtain ⟨plan, planned, same⟩ := claimed (.of .postgres 5000) personOfCrm _ (by decide) rfl
  cases planned
  have quoted := same _ List.mem_cons_self ⟨some "crm.persons", "id"⟩ (by decide +kernel) rfl
  revert quoted
  decide +kernel

end Polyquery
