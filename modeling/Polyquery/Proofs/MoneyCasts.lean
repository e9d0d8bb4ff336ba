import Polyquery.Proofs.AnyCase
import Polyquery.Proofs.SelectList

/-! Which columns a read casts from money. Postgres sends money as text, and so a money
column of the table that a query describes is cast where it is selected. Which column that is
goes by its name alone: the table in front of the name is not looked at. So every money column
of the described table is cast, and a column of a joined table as well if it has the name of
one. -/
namespace Polyquery
open Sql Text

/-! ## Fields -/

namespace Query

/-- The ways to ask for a column of the described table: by its name alone, or behind the name
of the table or its alias. -/
inductive AsksOwn (query : Query) (table : Table) (field : String) : String → Prop where
  | bare (undotted : '.' ∉ field.toList) : AsksOwn query table field field
  | real {column : String} (spelled : field = table.name ++ "." ++ column) :
    AsksOwn query table field column
  | alias {column : String} (spelled : field = query.aliasOf table.name ++ "." ++ column) :
    AsksOwn query table field column

/-- The way to ask for a column of any other table. -/
inductive AsksOther (query : Query) (table : Table) (field : String) : String → Prop where
  | joined {other column : String} (undotted : '.' ∉ other.toList) (notReal : other ≠ table.name)
    (notAlias : other ≠ query.aliasOf table.name) (spelled : field = other ++ "." ++ column) :
    AsksOther query table field column

section
variable {query : Query} {table : Table} {field column : String}

/-- A column that is asked for is the one that the field names. -/
theorem column_of_asked (real : '.' ∉ table.name.toList)
    (label : '.' ∉ (query.aliasOf table.name).toList)
    (asked : query.AsksOwn table field column ∨ query.AsksOther table field column) :
    (fieldColumn field).column = column := by
  rcases asked with (undotted | rfl | rfl) | ⟨undotted, _, _, rfl⟩
  · rw [fieldColumn_of_undotted undotted]
  · rw [fieldColumn_of_table real]
  · rw [fieldColumn_of_table label]
  · rw [fieldColumn_of_table undotted]

theorem asksOwn_iff (real : '.' ∉ table.name.toList) (label : '.' ∉ (query.aliasOf table.name).toList) :
    (∃ column, query.AsksOwn table field column) ↔
      (fieldColumn field).table ∈ [none, some table.name, some (query.aliasOf table.name)] := by
  constructor
  · rintro ⟨column, undotted | rfl | rfl⟩
    · simp [fieldColumn_of_undotted undotted]
    · simp [fieldColumn_of_table real]
    · simp [fieldColumn_of_table label]
  · intro own
    rcases fieldColumn_cases field with ⟨undotted, _⟩ | ⟨name, column, _, spelled, found⟩
    · exact ⟨field, .bare undotted⟩
    · simp only [found, List.mem_cons, reduceCtorEq, Option.some.injEq, List.not_mem_nil, or_false,
        false_or] at own
      rcases own with rfl | rfl
      · exact ⟨column, .real spelled⟩
      · exact ⟨column, .alias spelled⟩

theorem asksOther_iff :
    (∃ column, query.AsksOther table field column) ↔
      (fieldColumn field).table ∉ [none, some table.name, some (query.aliasOf table.name)] := by
  constructor
  · rintro ⟨column, undotted, notReal, notAlias, rfl⟩
    simp [fieldColumn_of_table undotted, notReal, notAlias]
  · intro other
    rcases fieldColumn_cases field with ⟨_, found⟩ | ⟨name, column, undotted, spelled, found⟩
    · simp [found] at other
    · simp only [found, List.mem_cons, reduceCtorEq, Option.some.injEq, List.not_mem_nil, or_false,
        false_or, not_or] at other
      exact ⟨column, .joined undotted other.1 other.2 spelled⟩

end

end Query

/-! ## Casts -/

/-- The table is described as having a column of this name that holds money. -/
def Table.HasMoney (table : Table) (name : String) : Prop :=
  ∃ column, table.columns.get? name = some column ∧ column.HoldsMoney

instance (table : Table) (name : String) : Decidable (table.HasMoney name) :=
  decidable_of_iff ((table.columns.get? name).any Column.isMoney = true) (by
    rw [Option.any_eq_true]
    exact exists_congr fun column => and_congr_right fun _ => isMoney_iff)

theorem castsMoney_output {query : Query} {table : Table} (described : query.table? = some table)
    (field : String) : (query.output .postgres field).castsMoney = true ↔
      table.HasMoney (fieldColumn field).column := by
  have looked : (query.output .postgres field).castsMoney =
      (table.columns.get? (fieldColumn field).column).any Column.isMoney := by
    rw [Query.output, described]
    rfl
  rw [looked, Option.any_eq_true]
  exact exists_congr fun column => and_congr_right fun _ => isMoney_iff

/-- The tokens of a cast from money to a number. -/
def moneyCast : Sql := [.mark .cast, .word .money, .mark .cast, .word .numeric]

/-- The select list of a read on Postgres has an item for each requested field, in their order:
the field as it is spelled, the cast if there is one, and the name of the output. There is one
exactly if the described table has a money column of the name behind the first dot. Unless the
described table has a dot in its own name, each item is a column of that table or of another
one. An own column is cast if it holds money; and a column of another table is cast if the
described table has a money column of its name. -/
theorem money_is_cast_by_name {compiler : Compiler} {query : Query} {compiled : Compiled}
    {table : Table}
    (postgres : compiler.dialect = .postgres) (reads : query.operation = .read)
    (described : query.table? = some table) (compiles : compiler.compile query = .ok compiled) :
    ∃ read outputs, query.plan compiler.dialect compiler.rowCap compiler.returning = .ok (.select read) ∧
      compiled = compiler.write .read (.select read) ∧
      read.clauses.projection = (if query.requested = [] then .all else .columns outputs) ∧
      outputs.map Output.name = query.requested ∧
      ∀ output ∈ outputs,
        output.sql = path output.name ++ (if output.castsMoney then moneyCast else []) ++
          [.space, .word .as, .space, .name output.name] ∧
        (output.castsMoney = true ↔ table.HasMoney (fieldColumn output.name).column) ∧
        ('.' ∉ table.name.toList → '.' ∉ (query.aliasOf table.name).toList →
          ((∃ column, query.AsksOther table output.name column) ↔
            ¬ ∃ column, query.AsksOwn table output.name column) ∧
          (∀ column, query.AsksOwn table output.name column →
            (output.castsMoney = true ↔ table.HasMoney column)) ∧
          ∀ column, query.AsksOther table output.name column →
            (output.castsMoney = true ↔ table.HasMoney column)) := by
  obtain ⟨window, joins, _, _, _, rfl, planned, written⟩ := Query.read_ok reads compiles
  refine ⟨_, query.requested.map (query.output .postgres), planned, written, ?_, ?_, ?_⟩
  · rw [← postgres]
    exact projection_eq query compiler.dialect
  · rw [List.map_map]
    exact List.map_id _
  · intro output listed
    obtain ⟨field, _, rfl⟩ := List.mem_map.1 listed
    have casts := castsMoney_output described field
    refine ⟨?_, casts, fun real label => ⟨?_, fun column own => ?_, fun column other => ?_⟩⟩
    · rw [Output.sql, Query.output, fieldColumn_sql]
      rfl
    · exact Query.asksOther_iff.trans (not_congr (Query.asksOwn_iff real label).symm)
    · rw [casts]
      exact iff_of_eq (congrArg table.HasMoney (Query.column_of_asked real label (.inl own)))
    · rw [casts]
      exact iff_of_eq (congrArg table.HasMoney (Query.column_of_asked real label (.inr other)))

/-- Persons under an alias, with their wages and with those of their tasks. -/
def personsWithWages : Query :=
  { Query.plain "persons" .read with
    fields := some ["wage", "p.wage", "tasks.id", "tasks.wage"]
    aliases := .ofList [("persons", "p")]
    relationships := [.direct "tasks" "id" "person_id"]
    details := some ⟨some ⟨"persons", ["id"],
      .ofList [("id", ⟨.number, none, some "int4"⟩), ("wage", ⟨.number, none, some "MoNeY(2)"⟩)]⟩⟩ }

theorem wages_are_cast :
    personsWithWages.operation = .read ∧ (Compiler.of .postgres 10).dialect = .postgres ∧
      ∃ table compiled, personsWithWages.table? = some table ∧
        (Compiler.of .postgres 10).compile personsWithWages = .ok compiled ∧
        ∃ read outputs, compiled = (Compiler.of .postgres 10).write .read (.select read) ∧
          read.clauses.projection = .columns outputs ∧
          outputs.map Output.name = ["wage", "p.wage", "tasks.id", "tasks.wage"] ∧
          ∀ output ∈ outputs, output.castsMoney = true ↔ output.name ≠ "tasks.id" := by
  have compiles : (Compiler.of .postgres 10).compile personsWithWages = .ok _ := rfl
  obtain ⟨read, outputs, _, written, projected, named, items⟩ :=
    money_is_cast_by_name rfl rfl rfl compiles
  refine ⟨rfl, rfl, _, _, rfl, compiles, read, outputs, written, projected, named, ?_⟩
  intro output listed
  have requested : output.name ∈ personsWithWages.requested := named ▸ List.mem_map_of_mem listed
  rw [(items output listed).2.1]
  revert requested
  generalize output.name = name
  revert name
  decide +kernel

/-- A column of a joined table is cast for its name: the tasks of persons whose wages are money. -/
theorem wage_of_task_is_cast :
    (∃ compiled, (Compiler.of .postgres 10).compile
        { personsWithWages with fields := some ["tasks.wage"] } = .ok compiled ∧
      compiled.text = "SELECT \"tasks\".\"wage\"::money::numeric AS \"tasks.wage\"" ++
        " FROM (SELECT * FROM \"persons\" AS \"p\" LIMIT 10) AS \"p\"" ++
        " LEFT JOIN \"tasks\" ON \"p\".\"id\" = \"tasks\".\"person_id\" LIMIT 10") ∧
    ¬ ∀ (compiler : Compiler) (query : Query) (compiled : Compiled) (table : Table),
      compiler.dialect = .postgres → query.operation = .read → query.table? = some table →
      compiler.compile query = .ok compiled →
      ∃ read, query.plan compiler.dialect compiler.rowCap compiler.returning = .ok (.select read) ∧
        ∀ outputs, read.clauses.projection = .columns outputs → ∀ output ∈ outputs,
          (output.castsMoney = true ↔
            ∃ column, query.AsksOwn table output.name column ∧ table.HasMoney column) := by
  refine ⟨⟨_, rfl, by decide +kernel⟩, fun claimed => ?_⟩
  obtain ⟨read, planned, cast⟩ := claimed (.of .postgres 10)
    { personsWithWages with fields := some ["tasks.wage"] } _ _ rfl rfl rfl rfl
  cases planned
  obtain ⟨column, own, _⟩ := (cast _ rfl _ (List.mem_singleton_self _)).1 (by decide +kernel)
  have other := (Query.asksOwn_iff (by decide) (by decide +kernel)).1 ⟨column, own⟩
  revert other
  decide +kernel

end Polyquery
