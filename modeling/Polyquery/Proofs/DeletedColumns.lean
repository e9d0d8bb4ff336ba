import Polyquery.Proofs.ReadBack
import Polyquery.Proofs.SelectList

/-! The columns of a deleted row. A dialect that returns written rows returns the columns
that the query asks for. On the others the row is read in front of the delete, by a
statement that asks for every column, whatever the query asks for. -/
namespace Polyquery
open Sql

/-! ## Columns put out -/

namespace Sql

/-- The names under which columns are put out, in their order; without a list of columns they
are those of the source. -/
def Projection.outputNames (source : List String) : Projection → List String
  | .all => source
  | .columns outputs => outputs.map Output.name

/-- The names under which a select puts its columns out, for tables with these columns. -/
def Select.outputNames (columns : TableRef → List String) : Select → List String
  | .table source clauses =>
    clauses.projection.outputNames
      (columns source ++ clauses.joins.flatMap fun join => columns join.table)
  | .derived inner _ clauses =>
    clauses.projection.outputNames
      (inner.outputNames columns ++ clauses.joins.flatMap fun join => columns join.table)

end Sql

section
variable (query : Query) (dialect : Dialect) (columns : TableRef → List String)

/-- What a query asks for is put out under the names that it asks with. -/
theorem outputNames_projection (source : List String) :
    (query.projection dialect).outputNames source =
      if query.requested = [] then source else query.requested := by
  rw [projection_eq]
  by_cases everything : query.requested = []
  · rw [if_pos everything, if_pos everything]
    rfl
  · rw [if_neg everything, if_neg everything, Projection.outputNames, List.map_map]
    exact List.map_id _

/-- The read of a row puts out every column of its table. -/
theorem outputNames_rowRead (described : Option Table) (filter : Filters Json) :
    (Query.rowRead dialect query.target described filter).outputNames columns = columns query.target := by
  simp [Query.rowRead, Query.oneRow, Select.outputNames, Projection.outputNames]

/-- A delete is planned without fail. -/
theorem delete_planned (cap : Nat) (returning : Bool) (deletes : query.operation = .delete) :
    query.plan dialect cap returning = .ok (.delete (query.delete dialect returning)) := by
  rw [Query.plan, deletes]

end

/-- A delete of a row that is known begins with the read of the row, and this is the row that
it hands back. -/
theorem known_row_is_read_first {query : Query} {compiler : Compiler} {process : List Row → List Row}
    {turns : List (Turn Compiled)} {result : Except Error Outcome} {filter : Filters Json}
    (deletes : query.operation = .delete) (known : query.idFilter? = some filter)
    (course : query.WritesAndReads compiler process turns result) :
    ∃ reply behind, turns = ⟨compiler.write .read (.select (Query.rowRead compiler.dialect query.target
        query.table? filter)), reply⟩ :: behind ∧
      ∀ outcome, result = .ok outcome →
        ∃ response, reply = .ok response ∧ outcome = .row ((process response.rows).headD .empty) := by
  -- The read of the row is the same whether the delete behind it is issued or given up.
  have read {turns : List (Turn Compiled)} {row : Except Error Row}
      (reads : query.ReadsRow compiler process query.idFilter? turns row) :
      ∃ reply, turns = [⟨compiler.write .read (.select (Query.rowRead compiler.dialect query.target
          query.table? filter)), reply⟩] ∧
        row = reply.map fun response => (process response.rows).headD .empty := by
    rw [known] at reads
    cases reads with
    | known filter reply => exact ⟨reply, rfl, rfl⟩
  cases course with
  | silent fails =>
    rw [Compiler.compile, delete_planned query _ _ _ deletes] at fails
    cases fails
  | failed compiles keeps => exact absurd deletes keeps
  | written compiles keeps => exact absurd deletes keeps
  | spared compiles _ reads =>
    obtain ⟨reply, rfl, _⟩ := read reads
    refine ⟨reply, [], rfl, ?_⟩
    intro outcome done
    cases done
  | @deleted write front row compiles _ answer reads =>
    obtain ⟨reply, rfl, found⟩ := read reads
    refine ⟨reply, [⟨write, answer⟩], rfl, ?_⟩
    intro outcome done
    cases reply with
    | error error => cases found
    | ok response =>
      cases found
      cases answer with
      | error error => cases done
      | ok affected =>
        cases done
        exact ⟨response, rfl, rfl⟩

/-- A deleted row is read whole. Where a delete returns its row, it comes with the requested
columns, in their order and under the names that they are requested with, or with all columns
of the table if none are requested. On the other dialects the row comes from the statement in
front of the delete, and this asks for all columns of the table. So the columns are the same
exactly if none are requested, or all of them as they are. -/
theorem deleted_row_is_read_whole (query : Query) {filter : Filters Json}
    (deletes : query.operation = .delete) (known : query.idFilter? = some filter) (dialect : Dialect)
    (silent : dialect.returnsRows = false) (cap : Nat) (process : List Row → List Row) {S : Type}
    (serve : S → Compiled → Except Error Response × S) (start : S) (columns : TableRef → List String) :
    let run := (query.conversation dialect cap process).run serve start
    ∃ native returned read reply behind,
      query.plan .postgres cap true = .ok (.delete native) ∧
      (Compiler.of .postgres cap).compile query =
        .ok ((Compiler.of .postgres cap).write .delete (.delete native)) ∧
      native.returning = some returned ∧
      (query.lookup filter).plan dialect cap false = .ok (.select read) ∧
      run.turns = ⟨(Compiler.of dialect cap).write .read (.select read), reply⟩ :: behind ∧
      (∀ outcome, run.result = .ok outcome →
        ∃ response, reply = .ok response ∧ outcome = .row ((process response.rows).headD .empty)) ∧
      returned.outputNames (columns native.table) =
        (if query.requested = [] then columns query.target else query.requested) ∧
      read.outputNames columns = columns query.target ∧
      (read.outputNames columns = returned.outputNames (columns native.table) ↔
        query.requested = [] ∨ query.requested = columns query.target) := by
  have course := silent_write_reads process query serve start dialect cap silent (.inr (.inr deletes))
  obtain ⟨reply, behind, first, handed⟩ := known_row_is_read_first deletes known course
  have returned := outputNames_projection query .postgres (columns query.target)
  have whole := outputNames_rowRead query dialect columns query.table? filter
  have agree : (Query.rowRead dialect query.target query.table? filter).outputNames columns =
      (query.projection .postgres).outputNames (columns query.target) ↔
        query.requested = [] ∨ query.requested = columns query.target := by
    rw [whole, returned]
    by_cases everything : query.requested = []
    · simp [everything]
    · simp [everything, eq_comm]
  have planned := delete_planned query .postgres cap true deletes
  have compiles : (Compiler.of .postgres cap).compile query =
      .ok ((Compiler.of .postgres cap).write query.operation (.delete (query.delete .postgres true))) :=
    congrArg (Except.map _) planned
  rw [deletes] at compiles
  exact ⟨_, _, _, reply, behind, planned, compiles, rfl, query.lookup_planned filter dialect cap false,
    first, handed, returned, whole, agree⟩

/-- The delete of a person of whom the name and the number are asked for. -/
def namedRemoval : Query :=
  { Query.plain "persons" .delete with
    endpoint := ⟨"main", "persons", .delete, some "crm"⟩
    fields := some ["persons.name", "id"]
    filters := some ⟨false, [⟨"id", .equal (.number (.ofInt64 3))⟩]⟩
    details := some ⟨some ⟨"persons", ["id"], .empty⟩⟩
    extra := some ⟨some ⟨false, [⟨"id", .equal (.number (.ofInt64 3))⟩]⟩⟩ }

theorem removed_person_is_read_whole :
    namedRemoval.operation = .delete ∧ (∃ filter, namedRemoval.idFilter? = some filter) ∧
      Dialect.oracle.returnsRows = false ∧
      let columns (_ : TableRef) : List String := ["id", "name", "wage"]
      ∃ native returned read reply behind,
        namedRemoval.plan .postgres 10 true = .ok (.delete native) ∧ native.returning = some returned ∧
        ((namedRemoval.conversation .oracle 10 id).run Conversation.scripted []).turns =
          ⟨(Compiler.of .oracle 10).write .read (.select read), reply⟩ :: behind ∧
        returned.outputNames (columns native.table) = ["persons.name", "id"] ∧
        read.outputNames columns = ["id", "name", "wage"] := by
  obtain ⟨native, returned, read, reply, behind, planned, _, returns, _, first, _, names, whole, _⟩ :=
    deleted_row_is_read_whole namedRemoval rfl rfl .oracle rfl 10 id Conversation.scripted []
      fun _ => ["id", "name", "wage"]
  exact ⟨rfl, ⟨_, rfl⟩, rfl, native, returned, read, reply, behind, planned, returns, first, names, whole⟩

/-- A deleted row does not come with the columns that were asked for: MySQL is asked for all of
them, where Postgres is asked for two. -/
theorem requested_columns_are_not_read :
    (∃ native lookup write, (Compiler.of .postgres 5000).compile namedRemoval = .ok native ∧
      native.text = "DELETE FROM \"crm\".\"persons\" WHERE \"persons\".\"id\" = $1" ++
        " RETURNING \"persons\".\"name\" AS \"persons.name\", \"id\" AS \"id\"" ∧
      ((namedRemoval.conversation .mysql 5000 id).run Conversation.scripted []).turns.map Turn.statement =
        [lookup, write] ∧
      lookup.text = "SELECT * FROM (SELECT * FROM `crm`.`persons`" ++
        " WHERE `persons`.`id` = ? LIMIT 1) AS `persons`") ∧
    ¬ ∀ (query : Query) (filter : Filters Json) (dialect : Dialect) (cap : Nat)
        (columns : TableRef → List String) (native : Delete) (returned : Projection) (read : Select),
      query.operation = .delete → query.idFilter? = some filter → dialect.returnsRows = false →
      query.plan .postgres cap true = .ok (.delete native) → native.returning = some returned →
      (query.lookup filter).plan dialect cap false = .ok (.select read) →
      read.outputNames columns = returned.outputNames (columns native.table) := by
  refine ⟨⟨_, _, _, rfl, by decide +kernel, by rfl, by decide +kernel⟩, ?_⟩
  intro claimed
  have same := claimed namedRemoval _ .mysql 5000 (fun _ => ["id", "name", "wage"]) _ _ _ rfl rfl rfl rfl
    rfl (namedRemoval.lookup_planned _ .mysql 5000 false)
  revert same
  decide +kernel

end Polyquery
