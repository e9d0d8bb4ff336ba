import Mathlib.Data.List.Forall2
import Polyquery.Database.Exchange
import Polyquery.Proofs.JsonCells
import Polyquery.Proofs.RowCap
import Polyquery.Proofs.SelectList

/-! What a read of everything hands back when tables are joined. The server sends the
columns of the base table and behind them those of the joined tables; the row is keyed
by column names. So where two tables have a column of one name, the cell of the table
that is joined last is handed back, a null where that table has no match. A cell of the
base table is handed back under every name that no joined table has. -/
namespace Polyquery
open Sql

/-! ## Tables -/

/-- A table as it is stored: columns by name and type, and rows with a cell for each. -/
structure Relation where
  columns : List (String × String)
  rows : List (List (Option String))
  distinct : (columns.map Prod.fst).Nodup
  full : ∀ cells ∈ rows, cells.length = columns.length

namespace Relation

def names (relation : Relation) : List String := relation.columns.map Prod.fst

/-- What stands for a row where a left join finds no match. -/
def nulls (relation : Relation) : List (Option String) := List.replicate relation.columns.length none

/-- What a left join can put behind a row. -/
def Offers (relation : Relation) (cells : List (Option String)) : Prop :=
  cells ∈ relation.rows ∨ cells = relation.nulls

theorem Offers.length_eq {relation : Relation} {cells : List (Option String)}
    (offered : relation.Offers cells) : cells.length = relation.columns.length := by
  rcases offered with stored | rfl
  · exact relation.full cells stored
  · exact List.length_replicate

end Relation

/-- Stored tables, and what their server makes of clauses on rows of cells. -/
structure Tables where
  /-- The table of a name in a schema. -/
  stored : Option String → String → Relation
  matching : Join → List (Option String) → List (Option String) → Bool
  meets : Condition → List (Option String) → Bool
  arranged : List SortKey → List (List (Option String)) → List (List (Option String))
  picked : List Output → List (Option String) → List (Option String)
  /-- The type of the column that an output makes. -/
  typed : Output → String
  arranged_perm : ∀ keys rows, (arranged keys rows).Perm rows

namespace Tables
variable {tables : Tables}

def relation (tables : Tables) (table : TableRef) : Relation := tables.stored table.schema table.name

/-- A row with each of its matches behind it, or with nulls if it has none. -/
def matched (tables : Tables) (join : Join) (row : List (Option String)) :
    List (List (Option String)) :=
  match (tables.relation join.table).rows.filter (tables.matching join row) with
  | [] => [row ++ (tables.relation join.table).nulls]
  | found => found.map (row ++ ·)

/-- The server of the tables. `SELECT *` shows the cells of all tables side by side. -/
def server (tables : Tables) : Server where
  Row := List (Option String)
  rows table := (tables.relation table).rows
  matched := tables.matched
  meets := tables.meets
  arranged := tables.arranged
  shown
    | .all, row => row
    | .columns outputs, row => tables.picked outputs row
  arranged_perm := tables.arranged_perm

/-- The columns that clauses make of the columns of their source. -/
def columnsOf (tables : Tables) (clauses : Clauses) (source : List (String × String)) :
    List (String × String) :=
  match clauses.projection with
  | .all => source ++ clauses.joins.flatMap fun join => (tables.relation join.table).columns
  | .columns outputs => outputs.map fun output => (output.name, tables.typed output)

/-- The columns of a result set. -/
def columns (tables : Tables) : Select → List (String × String)
  | .table source clauses => tables.columnsOf clauses (tables.relation source).columns
  | .derived inner _ clauses => tables.columnsOf clauses (tables.columns inner)

/-- The rows of a result set. -/
def results (tables : Tables) (select : Select) : List (List (Option String)) :=
  tables.server.evaluate select

/-- The result set of a select. -/
def reply (tables : Tables) (select : Select) : Database.Reply :=
  .results (tables.columns select) (tables.results select)

/-! ## Rows side by side -/

/-- What a left join puts behind a row is offered by the joined table. -/
theorem offered_of_matched {join : Join} {row cells : List (Option String)}
    (joined : cells ∈ tables.matched join row) :
    ∃ part, (tables.relation join.table).Offers part ∧ cells = row ++ part := by
  unfold matched at joined
  split at joined
  · exact ⟨_, .inr rfl, List.mem_singleton.1 joined⟩
  · obtain ⟨part, found, rfl⟩ := List.mem_map.1 joined
    exact ⟨part, .inl (List.mem_filter.1 found).1, rfl⟩

/-- Behind all joins, a row has one part for each of them. -/
theorem parts_of_joined {joins : List Join} {rows : List (List (Option String))}
    {cells : List (Option String)}
    (joined : cells ∈ joins.foldl (fun rows join => rows.flatMap (tables.matched join)) rows) :
    ∃ start ∈ rows, ∃ parts,
      List.Forall₂ (fun join part => (tables.relation join.table).Offers part) joins parts ∧
        cells = start ++ parts.flatten := by
  induction joins generalizing rows with
  | nil => exact ⟨cells, joined, [], .nil, by simp⟩
  | cons join rest ih =>
    obtain ⟨behindFirst, inside, parts, offered, rfl⟩ := ih joined
    obtain ⟨start, member, matched⟩ := List.mem_flatMap.1 inside
    obtain ⟨part, first, rfl⟩ := offered_of_matched matched
    exact ⟨start, member, part :: parts, .cons first offered, by simp⟩

/-- Conditions, orders and windows only choose among the joined rows. -/
theorem joined_of_applied {server : Server} {clauses : Clauses} {rows : List server.Row}
    {shown : server.Row} (applied : shown ∈ server.apply clauses rows) :
    ∃ row ∈ clauses.joins.foldl (fun rows join => rows.flatMap (server.matched join)) rows,
      shown = server.shown clauses.projection row := by
  obtain ⟨row, inWindow, rfl⟩ := List.mem_map.1 applied
  refine ⟨row, ?_, rfl⟩
  have arranged : row ∈ server.arranged clauses.order ((clauses.joins.foldl
      (fun rows join => rows.flatMap (server.matched join)) rows).filter
        (server.meets clauses.condition)) := by
    cases limited : clauses.limit with
    | none =>
      rw [limited] at inWindow
      exact List.mem_of_mem_drop inWindow
    | some limit =>
      rw [limited] at inWindow
      exact List.mem_of_mem_drop (List.mem_of_mem_take inWindow)
  exact (List.mem_filter.1 ((server.arranged_perm _ _).mem_iff.1 arranged)).1

/-- Clauses that show everything show rows of their source with what is joined. -/
theorem parts_of_applied {clauses : Clauses} {rows : List (List (Option String))}
    {cells : List (Option String)} (everything : clauses.projection = .all)
    (applied : cells ∈ tables.server.apply clauses rows) :
    ∃ start ∈ rows, ∃ parts,
      List.Forall₂ (fun join part => (tables.relation join.table).Offers part) clauses.joins parts ∧
        cells = start ++ parts.flatten := by
  obtain ⟨row, joined, shown⟩ := joined_of_applied applied
  rw [everything] at shown
  rw [shown]
  exact parts_of_joined joined

end Tables

/-! ## Rows by name -/

namespace Database
variable {server : Server}

/-- The JSON of a cell. -/
def Server.shown (server : Server) (type : String) (cell : Option String) : Json :=
  cell.elim .null fun text => (server.cellType type).read text

/-- Of two groups of columns side by side, a name is looked up in the second one first. -/
theorem row_append {columns more : List (String × String)} {cells further : List (Option String)}
    (aligned : cells.length = columns.length) (name : String) :
    (server.row (columns ++ more) (cells ++ further)).get? name =
      ((server.row more further).get? name).or ((server.row columns cells).get? name) := by
  unfold Server.row
  rw [List.zip_append aligned.symm, List.map_append]
  exact Record.get?_ofList_append _ _ name

variable {relation : Relation} {cells : List (Option String)}

/-- No column of one table is overwritten by another of the same table. -/
theorem entries_row (aligned : cells.length = relation.columns.length) :
    (server.row relation.columns cells).entries =
      (relation.columns.zip cells).map fun (column, cell) => (column.1, server.shown column.2 cell) := by
  refine Record.entries_ofList ?_
  have names : (relation.columns.zip cells).map (fun pair => pair.1.1) = relation.names := by
    rw [Relation.names, ← List.map_fst_zip (Nat.le_of_eq aligned.symm), List.map_map, List.map_fst_zip
      (Nat.le_of_eq aligned.symm)]
    rfl
  rw [List.map_map]
  exact names ▸ relation.distinct

theorem get?_row_of_column {column : String × String} {cell : Option String}
    (aligned : cells.length = relation.columns.length)
    (inside : (column, cell) ∈ relation.columns.zip cells) :
    (server.row relation.columns cells).get? column.1 = some (server.shown column.2 cell) := by
  rw [Record.get?_eq_some_iff, entries_row aligned]
  exact List.mem_map_of_mem inside

theorem get?_row_of_unknown {name : String} (aligned : cells.length = relation.columns.length)
    (unknown : name ∉ relation.names) : (server.row relation.columns cells).get? name = none := by
  refine Record.get?_eq_none fun inside => unknown ?_
  rw [Record.keys, entries_row aligned, List.map_map] at inside
  obtain ⟨⟨column, cell⟩, member, rfl⟩ := List.mem_map.1 inside
  exact List.mem_map_of_mem (List.of_mem_zip member).1

/-- The cell of a name in the last table that has a column of the name. -/
def Server.lastCell? (server : Server) (name : String) :
    List (Relation × List (Option String)) → Option Json
  | [] => none
  | (relation, cells) :: rest =>
    (server.lastCell? name rest).or ((server.row relation.columns cells).get? name)

/-- The row of tables side by side has under each name the cell of the last of them. -/
theorem get?_row_of_parts (server : Server) {parts : List (Relation × List (Option String))}
    (aligned : ∀ part ∈ parts, part.2.length = part.1.columns.length) (name : String) :
    (server.row (parts.flatMap (·.1.columns)) (parts.flatMap Prod.snd)).get? name =
      server.lastCell? name parts := by
  induction parts with
  | nil => rfl
  | cons part rest ih =>
    have later := ih fun other member => aligned other (List.mem_cons_of_mem _ member)
    rw [List.flatMap_cons, List.flatMap_cons, row_append (aligned part List.mem_cons_self), later]
    rfl

/-- A name that no table has is not found. -/
theorem lastCell?_eq_none {parts : List (Relation × List (Option String))} {name : String}
    (aligned : ∀ part ∈ parts, part.2.length = part.1.columns.length)
    (unknown : ∀ part ∈ parts, name ∉ part.1.names) : server.lastCell? name parts = none := by
  induction parts with
  | nil => rfl
  | cons part rest ih =>
    have later := ih (fun other member => aligned other (List.mem_cons_of_mem _ member))
      fun other member => unknown other (List.mem_cons_of_mem _ member)
    rw [Server.lastCell?, later, Option.none_or]
    exact get?_row_of_unknown (aligned part List.mem_cons_self) (unknown part List.mem_cons_self)

end Database

/-! ## Parsed rows -/

/-- What becomes of a cell on its way from the executor to the result of a read: under
the keys of JSON columns its text is parsed, once for each time the key is listed. -/
def Query.handedBack (query : Query) (name : String) : Json → Json :=
  match query.table? with
  | some table => parsedText^[table.jsonKeys.count name]
  | none => id

/-- The rows of a read are handed back one by one, cell by cell. -/
theorem rows_of_outcome (query : Query) (rows : List Row) :
    List.Forall₂ (fun row shown => ∀ name, shown.get? name = (row.get? name).map (query.handedBack name))
      rows (query.readOutcome rows).all := by
  unfold Query.readOutcome Query.handedBack
  cases query.table? with
  | none => exact List.forall₂_same.2 fun row _ name => by simp
  | some table =>
    refine List.forall₂_iff_get.2 ⟨by simp [Outcome.all, Table.materialize], fun i _ _ name => ?_⟩
    simp only [Outcome.all, Table.materialize, List.get_eq_getElem, List.getElem_map,
      List.getElem_mapIdx, Table.parseRow]
    exact get?_parseCells i table.jsonKeys _ name

/-! ## Reads of everything -/

namespace Tables
variable {tables : Tables}

/-- A row of a result set, put together from a row of the base table and from what each
join puts behind it. -/
structure Joined (tables : Tables) (query : Query) (joins : List Join)
    (base : List (Option String)) (parts : List (List (Option String)))
    (cells : List (Option String)) : Prop where
  stored : base ∈ (tables.relation query.pageTable).rows
  offered : List.Forall₂ (fun join part => (tables.relation join.table).Offers part) joins parts
  sideBySide : cells = base ++ parts.flatten

/-- The tables of a read with the cells that a row has from each. -/
def placed (tables : Tables) (query : Query) (joins : List Join) (base : List (Option String))
    (parts : List (List (Option String))) : List (Relation × List (Option String)) :=
  (tables.relation query.pageTable, base) ::
    (joins.map fun join => tables.relation join.table).zip parts

/-- A row that is handed back has the cell of the base table under each column name of
the base table, those left aside that are among the given names. -/
def KeepsBase (tables : Tables) (server : Database.Server) (query : Query) (except : List String)
    (base : List (Option String)) (row : Row) : Prop :=
  ∀ column cell, (column, cell) ∈ (tables.relation query.pageTable).columns.zip base →
    column.1 ∉ except →
      row.get? column.1 = some (query.handedBack column.1 (server.shown column.2 cell))

/-- The column names of joined tables. -/
def joinedNames (tables : Tables) (joins : List Join) : List String :=
  joins.flatMap fun join => (tables.relation join.table).names

/-- What joins offer stands side by side with their columns. -/
theorem offered_sideBySide {joins : List Join} {parts : List (List (Option String))}
    (offered : List.Forall₂ (fun join part => (tables.relation join.table).Offers part) joins parts) :
    let placed := (joins.map fun join => tables.relation join.table).zip parts
    (placed.flatMap (·.1.columns)) = joins.flatMap (fun join => (tables.relation join.table).columns) ∧
      placed.flatMap Prod.snd = parts.flatten ∧
      ∀ part ∈ placed, part.2.length = part.1.columns.length ∧
        ∃ join ∈ joins, part.1 = tables.relation join.table := by
  induction offered with
  | nil => exact ⟨rfl, rfl, nofun⟩
  | @cons join part joins parts first _ ih =>
    obtain ⟨columns, cells, each⟩ := ih
    refine ⟨by simp [columns], by simp [cells], fun placed member => ?_⟩
    rw [List.map_cons, List.zip_cons_cons, List.mem_cons] at member
    rcases member with rfl | later
    · exact ⟨first.length_eq, join, List.mem_cons_self, rfl⟩
    · obtain ⟨aligned, other, inside, same⟩ := each placed later
      exact ⟨aligned, other, List.mem_cons_of_mem _ inside, same⟩

variable {query : Query} {joins : List Join} {base cells : List (Option String)}
  {parts : List (List (Option String))}

theorem Joined.aligned (joined : tables.Joined query joins base parts cells) :
    ∀ part ∈ tables.placed query joins base parts, part.2.length = part.1.columns.length := by
  have behind := (offered_sideBySide joined.offered).2.2
  exact List.forall_mem_cons.2 ⟨Relation.full _ _ joined.stored, fun part member =>
    (behind part member).1⟩

/-- Under each name, a joined row has the cell of the last table with a column of the name. -/
theorem Joined.get?_row (joined : tables.Joined query joins base parts cells)
    (server : Database.Server) (name : String) :
    (server.row ((tables.relation query.pageTable).columns ++
      joins.flatMap fun join => (tables.relation join.table).columns) cells).get? name =
        server.lastCell? name (tables.placed query joins base parts) := by
  obtain ⟨columns, behind, _⟩ := offered_sideBySide joined.offered
  have shown := Database.get?_row_of_parts server joined.aligned name
  rw [placed, List.flatMap_cons, List.flatMap_cons, columns, behind] at shown
  rw [joined.sideBySide]
  exact shown

/-- Under a name that no joined table has, it is the cell of the base table. -/
theorem Joined.lastCell?_base (joined : tables.Joined query joins base parts cells)
    (server : Database.Server) {column : String × String} {cell : Option String}
    (inside : (column, cell) ∈ (tables.relation query.pageTable).columns.zip base)
    (apart : column.1 ∉ tables.joinedNames joins) :
    server.lastCell? column.1 (tables.placed query joins base parts) =
      some (server.shown column.2 cell) := by
  obtain ⟨_, _, each⟩ := offered_sideBySide joined.offered
  have later : server.lastCell? column.1
      ((joins.map fun join => tables.relation join.table).zip parts) = none := by
    refine Database.lastCell?_eq_none (fun part member => (each part member).1) fun part member named => ?_
    obtain ⟨_, join, inside, same⟩ := each part member
    exact apart (List.mem_flatMap.2 ⟨join, inside, same ▸ named⟩)
  rw [placed, Database.Server.lastCell?, later, Option.none_or]
  exact Database.get?_row_of_column (Relation.full _ _ joined.stored) inside

/-- A read of everything has the columns of all its tables, and its rows are joined rows. -/
theorem read_of_everything (tables : Tables) {dialect : Dialect} {cap : Nat} {window : Window}
    {read : Select} (everything : query.requested = [])
    (shape : read = .derived (.table query.pageTable (query.pageClauses dialect window))
      (query.aliasOf query.tableName) (query.outerClauses dialect cap joins)) :
    tables.columns read = (tables.relation query.pageTable).columns ++
        joins.flatMap (fun join => (tables.relation join.table).columns) ∧
      ∀ cells ∈ tables.results read,
        ∃ base parts, tables.Joined query joins base parts cells := by
  have all : query.projection dialect = .all := by rw [projection_eq, if_pos everything]
  subst shape
  refine ⟨?_, fun cells shown => ?_⟩
  · simp [Tables.columns, columnsOf, Query.outerClauses, all, Query.pageClauses]
  · obtain ⟨onPage, member, parts, offered, rfl⟩ := parts_of_applied all shown
    obtain ⟨base, stored, nothing, alone, rfl⟩ := parts_of_applied rfl member
    cases alone
    rw [List.flatten_nil, List.append_nil]
    exact ⟨base, parts, stored, offered, rfl⟩

end Tables

/-- A read is one statement, and its outcome is made of the result set. -/
theorem hold_read {query : Query} {dialect : Dialect} {cap : Nat} {compiled : Compiled}
    (server : Database.Server) (reads : query.operation = .read)
    (compiles : (Compiler.of dialect cap).compile query = .ok compiled)
    (columns : List (String × String)) (rows : List (List (Option String))) :
    server.hold (query.conversation dialect cap id) [.results columns rows] =
      ([⟨compiled, false⟩], .ok (query.readOutcome (rows.map (server.row columns)))) := by
  obtain ⟨_, _, _, _, _, _, _, written⟩ := Query.read_ok reads compiles
  have yields : compiled.yieldsRows = true := by
    rw [written]
    rfl
  simp [Query.conversation, Query.converse, reads, Conversation.say, compiles, Conversation.send,
    Database.Server.hold, Database.Server.response, yields]

/-- A read of everything is one statement, and what it hands back are the rows of the
result set, one by one. Each of them is put together from a row of the base table and
from what the joins put behind it, and under each name it has the cell of the table
that is joined last among those with a column of the name. So the cells of the base
table are handed back under all its column names that no joined table has. -/
theorem read_keeps_base_cells (server : Database.Server) {query : Query} {dialect : Dialect} {cap : Nat}
    {compiled : Compiled} (reads : query.operation = .read) (everything : query.requested = [])
    (compiles : (Compiler.of dialect cap).compile query = .ok compiled) (tables : Tables) :
    ∃ joins read outcome, query.joins = .ok joins ∧
      query.plan dialect cap (Compiler.of dialect cap).returning = .ok (.select read) ∧
      compiled = (Compiler.of dialect cap).write .read (.select read) ∧
      server.hold (query.conversation dialect cap id) [tables.reply read] =
        ([⟨compiled, false⟩], .ok outcome) ∧
      List.Forall₂ (fun cells row => ∃ base parts, tables.Joined query joins base parts cells ∧
          (∀ name, row.get? name = (server.lastCell? name
            (tables.placed query joins base parts)).map (query.handedBack name)) ∧
          tables.KeepsBase server query (tables.joinedNames joins) base row)
        (tables.results read) outcome.all := by
  obtain ⟨window, joins, read, _, joined, shape, planned, written⟩ := Query.read_ok reads compiles
  obtain ⟨columns, evaluated⟩ := tables.read_of_everything everything shape
  have handed := rows_of_outcome query
    ((tables.results read).map (server.row (tables.columns read)))
  rw [List.forall₂_map_left_iff] at handed
  refine ⟨joins, read, _, joined, planned, written, hold_read server reads compiles _ _, ?_⟩
  refine List.Forall₂.imp ?_ ((List.forall₂_and_left _ _).2 ⟨evaluated, handed⟩)
  rintro cells row ⟨⟨base, parts, together⟩, shown⟩
  rw [columns] at shown
  have named (name : String) := (shown name).trans (congrArg _ (together.get?_row server name))
  refine ⟨base, parts, together, named, fun column cell inside apart => ?_⟩
  rw [named, together.lastCell?_base server inside apart, Option.map_some]

/-- Persons with their tasks. -/
def personsWithTasks : Query :=
  { Query.plain "persons" .read with relationships := [.direct "tasks" "id" "person_id"] }

/-- One person, and a table of tasks without rows. -/
def onePersonNoTasks : Tables where
  stored _ name :=
    if name = "persons" then
      ⟨[("id", "INT4"), ("name", "TEXT")], [[some "1", some "Ann"]], by decide, by decide⟩
    else ⟨[("id", "INT4"), ("person_id", "INT4")], [], by decide, by decide⟩
  matching _ _ _ := true
  meets _ _ := true
  arranged _ rows := rows
  picked _ row := row
  typed _ := "TEXT"
  arranged_perm _ rows := .refl rows

theorem person_keeps_name :
    personsWithTasks.operation = .read ∧ personsWithTasks.requested = [] ∧
      ∃ compiled, (Compiler.of .postgres 5000).compile personsWithTasks = .ok compiled ∧
        ∃ read outcome, compiled = (Compiler.of .postgres 5000).write .read (.select read) ∧
          Database.Server.postgres.hold (personsWithTasks.conversation .postgres 5000 id)
            [onePersonNoTasks.reply read] = ([⟨compiled, false⟩], .ok outcome) ∧
          ∃ row, outcome.all = [row] ∧ row.get? "name" = some (.string "Ann") := by
  have compiles : (Compiler.of .postgres 5000).compile personsWithTasks = .ok _ := rfl
  obtain ⟨joins, read, outcome, joined, planned, written, held, handed⟩ :=
    read_keeps_base_cells .postgres rfl rfl compiles onePersonNoTasks
  cases joined
  cases planned
  obtain ⟨row, rest, ⟨base, parts, together, _, keeps⟩, nothing, shown⟩ :=
    List.forall₂_cons_left_iff.1 handed
  cases nothing
  have alone : base = [some "1", some "Ann"] := List.mem_singleton.1 together.stored
  subst alone
  have apart : "name" ∉ ["id", "person_id"] := by decide
  have named := keeps ("name", "TEXT") (some "Ann") (List.mem_cons_of_mem _ List.mem_cons_self) apart
  exact ⟨rfl, rfl, _, compiles, _, outcome, written, held, row, shown, named⟩

/-- Not every cell of the base table is handed back: the person has no task, and the
null of the task's number stands where the number of the person should. -/
theorem person_loses_number :
    (∃ read outcome, personsWithTasks.plan .postgres 5000 true = .ok (.select read) ∧
      (Database.Server.postgres.hold (personsWithTasks.conversation .postgres 5000 id)
        [onePersonNoTasks.reply read]).2 = .ok outcome ∧
      outcome.all = [.ofList [("id", .null), ("name", .string "Ann"), ("person_id", .null)]]) ∧
    ¬ ∀ (server : Database.Server) (query : Query) (dialect : Dialect) (cap : Nat) (compiled : Compiled),
      Database.ofDialect? dialect = some server → query.operation = .read → query.requested = [] →
      query.relationships ≠ [] → (Compiler.of dialect cap).compile query = .ok compiled →
      ∀ tables : Tables, ∃ joins read outcome, query.joins = .ok joins ∧
        query.plan dialect cap (Compiler.of dialect cap).returning = .ok (.select read) ∧
        (server.hold (query.conversation dialect cap id) [tables.reply read]).2 = .ok outcome ∧
        List.Forall₂ (fun cells row => ∃ base parts, tables.Joined query joins base parts cells ∧
            tables.KeepsBase server query [] base row)
          (tables.results read) outcome.all := by
  have outcome : (Database.Server.postgres.hold (personsWithTasks.conversation .postgres 5000 id)
      [.results [("id", "INT4"), ("name", "TEXT"), ("id", "INT4"), ("person_id", "INT4")]
        [[some "1", some "Ann", none, none]]]).2 = .ok (.rows
          [.ofList [("id", .null), ("name", .string "Ann"), ("person_id", .null)]] []) := by
    decide +kernel
  refine ⟨⟨_, _, rfl, outcome, rfl⟩, fun claimed => ?_⟩
  obtain ⟨joins, read, handed, joined, planned, held, kept⟩ := claimed .postgres personsWithTasks
    .postgres 5000 _ rfl rfl rfl (by decide) rfl onePersonNoTasks
  cases joined
  cases planned
  have same := held.symm.trans outcome
  cases same
  cases kept with
  | cons first rest =>
    obtain ⟨base, parts, together, keeps⟩ := first
    have alone : base = [some "1", some "Ann"] := List.mem_singleton.1 together.stored
    subst alone
    have number := keeps ("id", "INT4") (some "1") List.mem_cons_self (by simp)
    revert number
    decide +kernel

end Polyquery
