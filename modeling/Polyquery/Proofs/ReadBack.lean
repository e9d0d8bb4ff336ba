import Polyquery.Proofs.Running
import Polyquery.Proofs.WriteFilters

/-! The read back of a written row. On a dialect that does not return rows, a create, an
update or a delete comes with the read of one row. This read is made of the table of the
write and of what identifies the row, and of nothing else that the query has: it is the
same for every query about this row. A row that nothing identifies is not read, and empty. -/
namespace Polyquery
open Sql

namespace Query

/-! ## Identity -/

/-- The key that the source of a dialect reports for a created row: the driver of MySQL, or
the row that SQL Server selects behind the insert. -/
inductive Reports : Dialect → Response → Json → Prop where
  | lastKey {dialect : Dialect} {response : Response} {value : Value}
    (driver : dialect = .mysql ∨ dialect = .mariadb) (reported : response.lastKey = some value) :
    Reports dialect response value.toJson
  | selected {response : Response} {row : Row} {rest : List Row} {id : Json}
    (answered : response.rows = row :: rest) (cell : row.get? "id" = some id) (kept : id ≠ .null) :
    Reports .sqlServer response id

/-- The filter that identifies a written row: for a create on the first key of its table,
with the reported value or else the one in the body; otherwise the one that the query
brings along, if it brings one. -/
inductive Identified (query : Query) (dialect : Dialect) (response : Response) :
    Option (Filters Json) → Prop where
  | generated {key : String} {id : Json} (creates : query.operation = .create)
    (keyed : query.table?.bind Table.key? = some key) (reported : Reports dialect response id) :
    Identified query dialect response (some (equalFilter key id))
  | given {key : String} {id : Json} {row : Row} (creates : query.operation = .create)
    (keyed : query.table?.bind Table.key? = some key) (unreported : ∀ id, ¬ Reports dialect response id)
    (body : query.body = some (.row row)) (cell : row.get? key = some id) (kept : id ≠ .null) :
    Identified query dialect response (some (equalFilter key id))
  | brought (unknown : query.operation = .create → ∀ key, query.table?.bind Table.key? = some key →
      (∀ id, ¬ Reports dialect response id) ∧
        ∀ row id, query.body = some (.row row) → row.get? key = some id → id = .null) :
    Identified query dialect response query.idFilter?

section
variable {query : Query} {dialect : Dialect} {response : Response}

theorem filter_isNull {cell : Option Json} {id : Json} :
    (cell.filter fun value => !value.isNull) = some id ↔ cell = some id ∧ id ≠ .null := by
  rw [Option.filter_eq_some_iff]
  refine and_congr_right fun _ => ?_
  cases id <;> simp [Json.isNull]

theorem generatedKey?_eq_some {id : Json} :
    generatedKey? dialect response = some id ↔ Reports dialect response id := by
  constructor
  · intro generated
    cases dialect with
    | postgres | oracle => cases generated
    | mysql =>
      obtain ⟨value, reported, rfl⟩ := Option.map_eq_some_iff.1 generated
      exact .lastKey (.inl rfl) reported
    | mariadb =>
      obtain ⟨value, reported, rfl⟩ := Option.map_eq_some_iff.1 generated
      exact .lastKey (.inr rfl) reported
    | sqlServer =>
      obtain ⟨found, kept⟩ := filter_isNull.1 generated
      obtain ⟨row, first, cell⟩ := Option.bind_eq_some_iff.1 found
      obtain ⟨rest, answered⟩ := List.head?_eq_some_iff.1 first
      exact .selected answered cell kept
  · rintro (⟨rfl | rfl, reported⟩ | ⟨answered, cell, kept⟩)
    · simp [generatedKey?, Dialect.generatedKey, reported]
    · simp [generatedKey?, Dialect.generatedKey, reported]
    · refine filter_isNull.2 ⟨?_, kept⟩
      rw [answered]
      exact cell

theorem generatedKey?_eq_none :
    generatedKey? dialect response = none ↔ ∀ id, ¬ Reports dialect response id := by
  simp only [Option.eq_none_iff_forall_ne_some, ne_eq, generatedKey?_eq_some]

theorem bodyKey?_eq_some {key : String} {id : Json} :
    query.bodyKey? key = some id ↔
      ∃ row, query.body = some (.row row) ∧ row.get? key = some id ∧ id ≠ .null := by
  unfold bodyKey?
  split
  · next row body =>
    rw [filter_isNull, body]
    simp
  · next other =>
    refine ⟨nofun, ?_⟩
    rintro ⟨row, body, _⟩
    exact absurd body (other row)

/-- The filter that a written row is read with identifies it. -/
theorem identity_identified (query : Query) (dialect : Dialect) (response : Response) :
    query.Identified dialect response (query.identity? dialect response) := by
  by_cases creates : query.operation = .create
  · cases keyed : query.table?.bind Table.key? with
    | none =>
      have brought : query.identity? dialect response = query.idFilter? := by
        simp [identity?, creates, keyed]
      rw [brought]
      exact .brought fun _ key known => by simp [keyed] at known
    | some key =>
      cases generated : generatedKey? dialect response with
      | some id =>
        have identity : query.identity? dialect response = some (equalFilter key id) := by
          simp [identity?, creates, keyed, generated]
        rw [identity]
        exact .generated creates keyed (generatedKey?_eq_some.1 generated)
      | none =>
        have unreported := generatedKey?_eq_none.1 generated
        cases given : query.bodyKey? key with
        | some id =>
          have identity : query.identity? dialect response = some (equalFilter key id) := by
            simp [identity?, creates, keyed, generated, given]
          obtain ⟨row, body, cell, kept⟩ := bodyKey?_eq_some.1 given
          rw [identity]
          exact .given creates keyed unreported body cell kept
        | none =>
          have brought : query.identity? dialect response = query.idFilter? := by
            simp [identity?, creates, keyed, generated, given]
          rw [brought]
          refine .brought fun _ other known => ⟨unreported, fun row id body cell => ?_⟩
          obtain rfl : key = other := Option.some.inj (keyed.symm.trans known)
          by_contra kept
          rw [bodyKey?_eq_some.2 ⟨row, body, cell, kept⟩] at given
          cases given
  · have brought : query.identity? dialect response = query.idFilter? := by
      simp [identity?, creates]
    rw [brought]
    exact .brought fun created => absurd created creates

end

/-- A row is identified in one way. -/
theorem identity_of_identified {query : Query} {dialect : Dialect} {response : Response}
    {filter : Option (Filters Json)} (identified : query.Identified dialect response filter) :
    query.identity? dialect response = filter := by
  cases identified with
  | generated creates keyed reported =>
    simp [identity?, creates, keyed, generatedKey?_eq_some.2 reported]
  | given creates keyed unreported body cell kept =>
    simp [identity?, creates, keyed, generatedKey?_eq_none.2 unreported,
      bodyKey?_eq_some.2 ⟨_, body, cell, kept⟩]
  | brought unknown =>
    by_cases creates : query.operation = .create
    · cases keyed : query.table?.bind Table.key? with
      | none => simp [identity?, creates, keyed]
      | some key =>
        obtain ⟨unreported, null⟩ := unknown creates key keyed
        have missing : query.bodyKey? key = none := by
          refine Option.eq_none_iff_forall_ne_some.2 fun id given => ?_
          obtain ⟨row, body, cell, kept⟩ := bodyKey?_eq_some.1 given
          exact kept (null row id body cell)
        simp [identity?, creates, keyed, generatedKey?_eq_none.2 unreported, missing]
    · simp [identity?, creates]

/-- Queries whose creates know the same of the key, and which bring the same filter along,
identify the same row. -/
theorem identity_congr (dialect : Dialect) {query other : Query} (described : other.table? = query.table?)
    (creates : other.operation = .create ↔ query.operation = .create)
    (given : ∀ key, query.table?.bind Table.key? = some key → other.bodyKey? key = query.bodyKey? key)
    (brought : other.idFilter? = query.idFilter?) (response : Response) :
    other.identity? dialect response = query.identity? dialect response := by
  simp only [identity?, described, brought, creates]
  cases keyed : query.table?.bind Table.key? with
  | none => rfl
  | some key => simp only [Option.bind_some, given key keyed]

/-! ## Lookups -/

/-- SQL Server pages a table by the key that it is described with. -/
def keyOrder (dialect : Dialect) (described : Option Table) : List SortKey :=
  if dialect = .sqlServer then
    (described.bind fun table =>
      table.key?.map fun key => ⟨⟨some table.name, key⟩, .ascending⟩).toList
  else []

/-- The read of at most one row of a table that meets a condition: all of its columns under
the real name of the table, with nothing joined. Around it stands what is asked of other
tables. -/
def oneRow (dialect : Dialect) (target : TableRef) (described : Option Table)
    (own around : Condition) : Select :=
  .derived
    (.table target
      { projection := .all, joins := [], condition := own, order := keyOrder dialect described,
        limit := some 1, offset := none })
    target.name
    { projection := .all, joins := [], condition := around, order := [], limit := none, offset := none }

/-- The read of the row of a table that a filter identifies. -/
def rowRead (dialect : Dialect) (target : TableRef) (described : Option Table)
    (filter : Filters Json) : Select :=
  oneRow dialect target described (filter.normalized.condition dialect ⟨target.name, .empty, .base⟩)
    (filter.normalized.condition dialect ⟨target.name, .empty, .related⟩)

theorem lookup_order (query : Query) (dialect : Dialect) (filter : Filters Json) :
    (query.lookup filter).order dialect = keyOrder dialect query.table? := by
  have described : (query.lookup filter).table? = query.table? := rfl
  have unsorted : (query.lookup filter).sort.getD [] = [] := rfl
  have limited : ((query.lookup filter).paging.bind Paging.size?).isSome = true := rfl
  have reference : (query.lookup filter).sortReference =
      (query.table?.map Table.name).getD query.tableName := rfl
  rw [order, unsorted, described, limited, reference, keyOrder]
  cases query.table? with
  | none => simp
  | some table =>
    cases keyed : table.key? with
    | none => simp [keyed]
    | some key => cases dialect <;> simp [keyed, Dialect.ordersPages]

/-- A lookup is planned from the table of the query and the filter. -/
theorem lookup_planned (query : Query) (filter : Filters Json) (dialect : Dialect) (cap : Nat)
    (returning : Bool) :
    (query.lookup filter).plan dialect cap returning =
      .ok (.select (rowRead dialect query.target query.table? filter)) := by
  have page : (query.lookup filter).pageClauses dialect ⟨1, none⟩ =
      { projection := .all, joins := [],
        condition := filter.normalized.condition dialect ⟨query.tableName, .empty, .base⟩,
        order := keyOrder dialect query.table?, limit := some 1, offset := none } := by
    rw [pageClauses, lookup_order]
    rfl
  have outside : (if dialect.sortsOutside then (query.lookup filter).order dialect else []) = [] := by
    rw [lookup_order, keyOrder]
    cases dialect <;> rfl
  have around : (query.lookup filter).outerClauses dialect cap [] =
      { projection := .all, joins := [],
        condition := filter.normalized.condition dialect ⟨query.tableName, .empty, .related⟩,
        order := [], limit := none, offset := none } := by
    rw [outerClauses, outside]
    rfl
  rw [lookup_plan, page, around]
  rfl

theorem lookup_statement (compiler : Compiler) (query : Query) (filter : Filters Json) :
    compiler.compile (query.lookup filter) = .ok (compiler.write .read
      (.select (rowRead compiler.dialect query.target query.table? filter))) := by
  rw [Compiler.compile, lookup_planned]
  rfl

/-- Queries about one table look a row up in the same way. -/
theorem lookup_congr (compiler : Compiler) {query other : Query}
    (table : other.tableName = query.tableName) (schema : other.endpoint.schema = query.endpoint.schema)
    (described : other.table? = query.table?) (filter : Filters Json) :
    compiler.compile (other.lookup filter) = compiler.compile (query.lookup filter) := by
  have same : other.target = query.target := by rw [target, target, table, schema]
  rw [lookup_statement, lookup_statement, same, described]

/-! ## Runs -/

/-- How the row that a filter identifies is read, and what it is. -/
inductive ReadsRow (compiler : Compiler) (process : List Row → List Row) (query : Query) :
    Option (Filters Json) → List (Turn Compiled) → Except Error Row → Prop where
  /-- Without a filter nothing is read. -/
  | unknown : ReadsRow compiler process query none [] (.ok .empty)
  /-- One statement is issued, and the row is the first one of its answer. -/
  | known (filter : Filters Json) (reply : Except Error Response) :
    ReadsRow compiler process query (some filter)
      [⟨compiler.write .read (.select (rowRead compiler.dialect query.target query.table? filter)), reply⟩]
      (reply.map fun response => (process response.rows).headD .empty)

/-- The ways in which a write goes whose row is read by a statement of its own. -/
inductive WritesAndReads (compiler : Compiler) (process : List Row → List Row) (query : Query) :
    List (Turn Compiled) → Except Error Outcome → Prop where
  | silent {error : Error} (fails : compiler.compile query = .error error) :
    WritesAndReads compiler process query [] (.error error)
  /-- A create or an update that failed. -/
  | failed {write : Compiled} {error : Error} (compiles : compiler.compile query = .ok write)
    (keeps : query.operation ≠ .delete) :
    WritesAndReads compiler process query [⟨write, .error error⟩] (.error error)
  /-- A create or an update, with its row read behind it. -/
  | written {write : Compiled} {response : Response} {filter : Option (Filters Json)}
    {turns : List (Turn Compiled)} {row : Except Error Row}
    (compiles : compiler.compile query = .ok write) (keeps : query.operation ≠ .delete)
    (identified : query.Identified compiler.dialect response filter)
    (reads : query.ReadsRow compiler process filter turns row) :
    WritesAndReads compiler process query (⟨write, .ok response⟩ :: turns) (row.map .row)
  /-- A delete that is given up since its row could not be read. -/
  | spared {write : Compiled} {turns : List (Turn Compiled)} {error : Error}
    (compiles : compiler.compile query = .ok write) (deletes : query.operation = .delete)
    (reads : query.ReadsRow compiler process query.idFilter? turns (.error error)) :
    WritesAndReads compiler process query turns (.error error)
  /-- A delete, with its row read in front of it. -/
  | deleted {write : Compiled} {turns : List (Turn Compiled)} {row : Row}
    (compiles : compiler.compile query = .ok write) (deletes : query.operation = .delete)
    (answer : Except Error Response)
    (reads : query.ReadsRow compiler process query.idFilter? turns (.ok row)) :
    WritesAndReads compiler process query (turns ++ [⟨write, answer⟩]) (answer.map fun _ => .row row)

end Query

section
variable {S : Type} (compiler : Compiler) (process : List Row → List Row) (query : Query)
  (serve : S → Compiled → Except Error Response × S) (state : S)
open Conversation

/-- A read back ends in an error or goes on with its row. -/
theorem run_readBack (filter : Option (Filters Json)) (next : Row → Conversation Compiled) :
    ∃ turns row after, query.ReadsRow compiler process filter turns row ∧
      (query.readBack compiler.compile process filter next).run serve state =
        match row with
        | .error error => ⟨turns, .error error, after⟩
        | .ok row =>
          { (next row).run serve after with turns := turns ++ ((next row).run serve after).turns } := by
  cases filter with
  | none => exact ⟨[], .ok .empty, state, .unknown, rfl⟩
  | some filter =>
    simp only [Query.readBack, Query.lookup_statement, say]
    generalize issued : compiler.write .read _ = lookup
    rcases served : serve state lookup with ⟨reply, after⟩
    refine ⟨_, _, after, .known filter reply, ?_⟩
    rw [issued]
    cases reply with
    | error error => exact run_send_error served
    | ok response => exact run_send_ok served

/-- Behind a create or an update its row is read. -/
theorem write_reads {write : Compiled} (compiles : compiler.compile query = .ok write)
    (keeps : query.operation ≠ .delete) :
    let run := (query.emulated compiler.compile process compiler.dialect).run serve state
    query.WritesAndReads compiler process run.turns run.result := by
  simp only [Query.emulated, compiles, keeps, ↓reduceIte]
  rcases served : serve state write with ⟨answer, after⟩
  cases answer with
  | error error =>
    rw [run_send_error served]
    exact .failed compiles keeps
  | ok response =>
    obtain ⟨turns, row, last, reads, ran⟩ := run_readBack compiler process query serve after
      (query.identity? compiler.dialect response) fun row => .finish (.ok (.row row))
    have written := Query.WritesAndReads.written compiles keeps
      (query.identity_identified compiler.dialect response) reads
    rw [run_send_ok served, ran]
    cases row with
    | error error => exact written
    | ok row => simpa [Conversation.run, Except.map] using written

/-- In front of a delete its row is read. -/
theorem delete_reads {write : Compiled} (compiles : compiler.compile query = .ok write)
    (deletes : query.operation = .delete) :
    let run := (query.emulated compiler.compile process compiler.dialect).run serve state
    query.WritesAndReads compiler process run.turns run.result := by
  simp only [Query.emulated, compiles, deletes, ↓reduceIte]
  obtain ⟨turns, row, between, reads, ran⟩ := run_readBack compiler process query serve state
    query.idFilter? fun row => send write fun _ => .finish (.ok (.row row))
  rw [ran]
  cases row with
  | error error => exact .spared compiles deletes reads
  | ok row =>
    have deleted (answer : Except Error Response) :=
      Query.WritesAndReads.deleted compiles deletes answer reads
    rcases served : serve between write with ⟨answer, after⟩
    cases answer with
    | error error =>
      simp only [run_send_error served]
      exact deleted _
    | ok response =>
      simp only [run_send_ok served]
      exact deleted _

/-- An emulated write: whatever the executor does. -/
theorem emulated_reads (emulated : query.isDirect compiler.dialect = false)
    (operates : query.isTableOperation = false) :
    let run := (query.converse compiler.compile process compiler.dialect).run serve state
    query.WritesAndReads compiler process run.turns run.result := by
  rw [converse_emulated process operates emulated]
  cases compiles : compiler.compile query with
  | error error =>
    simp only [Query.emulated, compiles]
    exact .silent compiles
  | ok write =>
    by_cases deletes : query.operation = .delete
    · exact delete_reads compiler process query serve state compiles deletes
    · exact write_reads compiler process query serve state compiles deletes

/-- A write on a dialect that does not return rows is emulated. -/
theorem silent_write_reads (dialect : Dialect) (cap : Nat) (silent : dialect.returnsRows = false)
    (writes : query.operation = .create ∨ query.operation = .update ∨ query.operation = .delete) :
    let run := (query.conversation dialect cap process).run serve state
    query.WritesAndReads (.of dialect cap) process run.turns run.result := by
  apply emulated_reads (.of dialect cap)
  · rcases writes with operation | operation | operation <;>
      simp [Query.isDirect, Compiler.of, silent, operation]
  · rcases writes with operation | operation | operation <;> simp [Query.isTableOperation, operation]

end

/-! ## Keys -/

section
variable {dialect : Dialect} {key : String}

/-- A key without a dot and a marker is a column of the table, and only that. -/
theorem resolve_plain (base : String) (unmarked : Key.canonical key = key) (undotted : '.' ∉ key.toList) :
    Scope.resolve ⟨base, .empty, .base⟩ key = some ⟨some base, key⟩ ∧
      Scope.resolve ⟨base, .empty, .related⟩ key = none := by
  have own : Key.isRelated key = false := by simp [Key.isRelated, unmarked, undotted]
  have resolved (pass : Pass) := resolve_eq (Query.plain base .read) pass key
  have column : (Query.plain base .read).filterColumn key = ⟨some base, key⟩ := by
    rw [Query.filterColumn, own, unmarked]
    rfl
  have taken := resolved .base
  have passed := resolved .related
  simp only [Pass.takes, own, column] at taken passed
  exact ⟨taken, passed⟩

/-- The row with a key is read by a comparison with the key, but with null by a test for
null. -/
theorem key_read (dialect : Dialect) (target : TableRef) (described : Option Table)
    (unmarked : Key.canonical key = key) (undotted : '.' ∉ key.toList) (id : Json) :
    Query.rowRead dialect target described (Query.equalFilter key id) =
      Query.oneRow dialect target described
        ⟨.and, [match Value.ofJson id with
          | .null => .isNull ⟨some target.name, key⟩ false
          | value => .compare ⟨some target.name, key⟩ .equal value]⟩ .none := by
  obtain ⟨own, apart⟩ := resolve_plain target.name unmarked undotted
  have condition (scope : Scope) : (Query.equalFilter key id).normalized.condition dialect scope =
      ⟨.and, [⟨key, .equal (Value.ofJson id)⟩].filterMap (Filter.predicate? dialect scope)⟩ := rfl
  simp only [Query.rowRead, condition, Filter.predicate?, own, apart, List.filterMap_cons,
    List.filterMap_nil, Option.bind_some, Option.bind_none, Test.predicate?]
  cases Value.ofJson id <;> rfl

end

/-- A written row is read by its identity. A create or an update is followed by one read, and
a delete comes behind it, through the filter that identifies the row; without one nothing is
read. The statement of this read takes at most one row of the table, in its schema and under
its real name, with all columns and no joins, and what it asks is the filter. So it is the
same for all queries about this table, whatever else they have, and those that know the
same of the key and bring the same filter identify the same row. A key that has neither a
dot nor a marker is compared with its value, as long as this is not bound as null; but null
is taken for a key like any other, and then the row is read whose key is null. -/
theorem written_row_is_read_by_its_identity (query : Query) (dialect : Dialect) (cap : Nat)
    (process : List Row → List Row) {S : Type} (serve : S → Compiled → Except Error Response × S)
    (start : S) (silent : dialect.returnsRows = false)
    (writes : query.operation = .create ∨ query.operation = .update ∨ query.operation = .delete) :
    let compiler := Compiler.of dialect cap
    let run := (query.conversation dialect cap process).run serve start
    query.WritesAndReads compiler process run.turns run.result ∧
    (∀ filter, compiler.compile (query.lookup filter) = .ok (compiler.write .read
      (.select (Query.rowRead dialect query.target query.table? filter)))) ∧
    (∀ other : Query, other.tableName = query.tableName →
      other.endpoint.schema = query.endpoint.schema → other.table? = query.table? →
      (∀ filter, compiler.compile (other.lookup filter) = compiler.compile (query.lookup filter)) ∧
      ((other.operation = .create ↔ query.operation = .create) →
        (∀ key, query.table?.bind Table.key? = some key → other.bodyKey? key = query.bodyKey? key) →
        other.idFilter? = query.idFilter? →
        ∀ response, other.identity? dialect response = query.identity? dialect response)) ∧
    ∀ key id, Key.canonical key = key → '.' ∉ key.toList →
      (Value.ofJson id ≠ .null →
        Query.rowRead dialect query.target query.table? (Query.equalFilter key id) =
          Query.oneRow dialect query.target query.table?
            ⟨.and, [.compare ⟨some query.tableName, key⟩ .equal (Value.ofJson id)]⟩ .none) ∧
      (Value.ofJson id = .null →
        Query.rowRead dialect query.target query.table? (Query.equalFilter key id) =
          Query.oneRow dialect query.target query.table?
            ⟨.and, [.isNull ⟨some query.tableName, key⟩ false]⟩ .none) := by
  have emulated : query.isDirect dialect = false := by
    rcases writes with operation | operation | operation <;> simp [Query.isDirect, silent, operation]
  have operates : query.isTableOperation = false := by
    rcases writes with operation | operation | operation <;> simp [Query.isTableOperation, operation]
  refine ⟨emulated_reads (.of dialect cap) process query serve start emulated operates,
    Query.lookup_statement (.of dialect cap) query, fun other table schema described => ?_, ?_⟩
  · exact ⟨Query.lookup_congr _ table schema described, fun creates given brought =>
      Query.identity_congr dialect described creates given brought⟩
  · intro key id unmarked undotted
    rw [key_read dialect query.target query.table? unmarked undotted id]
    refine ⟨fun bound => ?_, fun null => by rw [null]; rfl⟩
    cases value : Value.ofJson id with
    | null => exact absurd value bound
    | _ => rfl

/-- A new person, in a query with much that is not about the row. -/
def namedPerson : Query :=
  { Query.plain "persons" .create with
    endpoint := ⟨"main", "persons", .create, some "crm"⟩
    filters := some ⟨false, [⟨"name", .equal (.string "Grace")⟩]⟩
    sort := some [("name", .descending)]
    paging := some ⟨some 3, some 10⟩
    relationships := [.direct "tasks" "id" "person_id"]
    aliases := .ofList [("persons", "p")]
    details := some ⟨some ⟨"persons", ["id"], .empty⟩⟩
    body := some (.row (.ofList [("name", .string "Ann")]))
    extra := some ⟨some ⟨false, [⟨"name", .equal (.string "Ann")⟩]⟩⟩ }

def seventh : Row := .ofList [("id", .number (.ofInt64 7)), ("name", .string "Ann")]

theorem named_person_is_read_by_number :
    Dialect.sqlServer.returnsRows = false ∧ namedPerson.operation = .create ∧
      let compiler := Compiler.of .sqlServer 5000
      let run := (namedPerson.conversation .sqlServer 5000 id).run Conversation.scripted
        [.ok ⟨[.ofList [("id", .number (.ofInt64 7))]], none⟩, .ok ⟨[seventh], none⟩]
      namedPerson.WritesAndReads compiler id run.turns run.result ∧ run.result = .ok (.row seventh) ∧
        ∃ lookup, compiler.compile (namedPerson.lookup (Query.equalFilter "id" (.number (.ofInt64 7)))) =
            .ok lookup ∧
          lookup = compiler.write .read (.select (Query.oneRow .sqlServer ⟨"persons", some "crm", none⟩
            namedPerson.table? ⟨.and, [.compare ⟨some "persons", "id"⟩ .equal (.int 7)]⟩ .none)) ∧
          lookup.text = "SELECT * FROM (SELECT TOP (1) * FROM [crm].[persons]" ++
            " WHERE [persons].[id] = @p1 ORDER BY [persons].[id] ASC) AS [persons]" := by
  obtain ⟨course, statement, _, keyed⟩ := written_row_is_read_by_its_identity namedPerson .sqlServer 5000
    id Conversation.scripted
    [.ok ⟨[.ofList [("id", .number (.ofInt64 7))]], none⟩, .ok ⟨[seventh], none⟩] rfl (.inl rfl)
  have bound : Value.ofJson (.number (.ofInt64 7)) = .int 7 := Value.ofJson_toJson_int 7
  have read := (keyed "id" (.number (.ofInt64 7)) (by decide) (by decide)).1 (by simp [bound])
  refine ⟨rfl, rfl, course, by rfl, _, statement _, ?_, by decide +kernel⟩
  rw [read, bound]
  rfl

/-- A person with the number five. -/
def fifthPerson : Query :=
  { Query.plain "persons" .create with
    details := some ⟨some ⟨"persons", ["id"], .empty⟩⟩
    body := some (.row (.ofList [("id", .number (.ofInt64 5))])) }

/-- A key that is reported as null stands in front of the one in the body, and the row that
is read back is one without a key. -/
theorem null_is_read_back :
    (∃ write lookup, (fifthPerson.conversation .mysql 5000 id).run Conversation.scripted
        [.ok ⟨[], some .null⟩, .ok ⟨[seventh], none⟩] =
          ⟨[⟨write, .ok ⟨[], some .null⟩⟩, ⟨lookup, .ok ⟨[seventh], none⟩⟩], .ok (.row seventh), []⟩ ∧
      write.text = "INSERT INTO `persons` (`id`) VALUES (?)" ∧ write.bindings = [.int 5] ∧
      lookup.text = "SELECT * FROM (SELECT * FROM `persons`" ++
        " WHERE `persons`.`id` IS NULL LIMIT 1) AS `persons`" ∧ lookup.bindings = []) ∧
    ¬ ∀ (query : Query) (dialect : Dialect) (response : Response) (key : String) (id : Json)
        (filter : Filters Json), query.operation = .create →
      query.table?.bind Table.key? = some key → Key.canonical key = key → '.' ∉ key.toList →
      query.bodyKey? key = some id → query.identity? dialect response = some filter →
      ∃ value, Query.rowRead dialect query.target query.table? filter =
        Query.oneRow dialect query.target query.table?
          ⟨.and, [.compare ⟨some query.tableName, key⟩ .equal value]⟩ .none := by
  refine ⟨⟨_, _, by rfl, by decide +kernel, by rfl, by decide +kernel, by rfl⟩, fun claimed => ?_⟩
  obtain ⟨value, compared⟩ := claimed fifthPerson .mysql ⟨[], some .null⟩ "id" (.number (.ofInt64 5)) _ rfl
    rfl (by decide) (by decide) rfl rfl
  have unmarked : Key.canonical "id" = "id" := by decide
  have read := key_read .mysql fifthPerson.target fifthPerson.table? unmarked (by decide)
    (Value.toJson .null)
  have same := read.symm.trans compared
  cases same

end Polyquery
