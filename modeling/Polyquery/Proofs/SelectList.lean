import Polyquery.Proofs.Qualifiers

/-! What the select list of a read asks for. Everything else in a read translates the
names of tables to their aliases; the select list does not. A requested column stands
there under the table that the request names, and so it is a column of that table
exactly as long as the table has no other name in the query. -/
namespace Polyquery
open Sql

/-! ## Paths -/

namespace Text

theorem intersperse_append {α : Type} (separator : List α) {front back : List (List α)}
    (some : front ≠ []) (more : back ≠ []) :
    intersperse separator (front ++ back) =
      intersperse separator front ++ separator ++ intersperse separator back := by
  induction front with
  | nil => exact absurd rfl some
  | cons first rest ih =>
    cases rest with
    | nil =>
      obtain ⟨next, others, rfl⟩ := List.exists_cons_of_ne_nil more
      rfl
    | cons second others =>
      simp only [List.cons_append] at ih ⊢
      simp [intersperse, ih]

theorem flatMap_intersperse {α β : Type} (f : α → List β) (separator : List α)
    (parts : List (List α)) :
    (intersperse separator parts).flatMap f =
      intersperse (separator.flatMap f) (parts.map fun part => part.flatMap f) := by
  induction parts with
  | nil => rfl
  | cons first rest ih =>
    cases rest with
    | nil => rfl
    | cons second others =>
      rw [List.map_cons] at ih ⊢
      simp only [intersperse, List.flatMap_append, ih]
      rfl

end Text

namespace Sql

/-- The path of a column behind its table is the path of the table, and behind it
that of the column. -/
theorem path_dotted (table column : String) :
    path (table ++ "." ++ column) = path table ++ .mark .dot :: path column := by
  have dot : ".".toList = ['.'] := rfl
  unfold path
  rw [String.toList_append, String.toList_append, dot, List.append_assoc, List.singleton_append,
    Text.segments_append, List.map_append, Text.intersperse_append]
  · simp
  · simpa using Text.segments_ne_nil '.' table.toList
  · simpa using Text.segments_ne_nil '.' column.toList

/-- What a token of a path spells. -/
def Token.spelled : Token → List Char
  | .name text => text.toList
  | .mark .dot => ['.']
  | _ => []

/-- A path spells the name that it is the path of. -/
theorem spelled_path (name : String) : (path name).flatMap Token.spelled = name.toList := by
  have pieces : ((Text.segments '.' name.toList).map fun segment =>
      [Token.name (String.ofList segment)].flatMap Token.spelled) =
        Text.segments '.' name.toList := by
    simp [Token.spelled]
  rw [path, Text.flatMap_intersperse, List.map_map, Function.comp_def, pieces]
  exact Text.intersperse_segments '.' name.toList

theorem path_injective {name other : String} (same : path name = path other) : name = other := by
  rw [← String.toList_inj, ← spelled_path name, same, spelled_path]

/-- A column has one qualifier. -/
theorem qualifier_of_sql {table other column : String}
    (same : (ColumnRef.mk (some table) column).sql = (ColumnRef.mk (some other) column).sql) :
    table = other :=
  path_injective (List.append_cancel_right same)

end Sql

/-! ## Outputs -/

/-- The column that a field of the request names. -/
def fieldColumn (field : String) : ColumnRef :=
  match cutSelector field with
  | some (table, name) => ⟨some table, name⟩
  | none => ⟨none, field⟩

/-- What stands in front of the first dot is a table, and behind it a column. -/
theorem fieldColumn_of_table {table : String} (undotted : '.' ∉ table.toList) (column : String) :
    fieldColumn (table ++ "." ++ column) = ⟨some table, column⟩ := by
  have dot : ".".toList = ['.'] := rfl
  have front : ∀ c ∈ table.toList, decide (c ≠ '.') = true := by
    intro c inside
    exact decide_eq_true fun same => undotted (same ▸ inside)
  have cut : Text.cutFirst '.' (table ++ "." ++ column).toList = some (table.toList, column.toList) := by
    rw [cutFirst_eq, String.toList_append, String.toList_append, dot, List.append_assoc,
      List.singleton_append, if_pos (by simp), List.takeWhile_append_of_pos front,
      List.dropWhile_append_of_pos front]
    simp
  rw [fieldColumn, cutSelector, cut]
  simp

/-- A field without a dot is all column. -/
theorem fieldColumn_of_undotted {field : String} (undotted : '.' ∉ field.toList) :
    fieldColumn field = ⟨none, field⟩ := by
  rw [fieldColumn, cutSelector, cutFirst_eq, if_neg undotted]
  rfl

/-- Every field is one of these two. -/
theorem fieldColumn_cases (field : String) :
    ('.' ∉ field.toList ∧ fieldColumn field = ⟨none, field⟩) ∨
      ∃ table column, '.' ∉ table.toList ∧ field = table ++ "." ++ column ∧
        fieldColumn field = ⟨some table, column⟩ := by
  by_cases dotted : '.' ∈ field.toList
  · obtain ⟨⟨front, behind⟩, cut⟩ := Option.isSome_iff_exists.1
      (show (Text.cutFirst '.' field.toList).isSome by rw [cutFirst_eq, if_pos dotted]; rfl)
    obtain ⟨whole, undotted⟩ := Text.cutFirst_eq_some cut
    have spelled : field = String.ofList front ++ "." ++ String.ofList behind := by
      rw [← String.toList_inj, whole]
      simp
    have undottedName : '.' ∉ (String.ofList front).toList := by rwa [String.toList_ofList]
    exact .inr ⟨_, _, undottedName, spelled, spelled ▸ fieldColumn_of_table undottedName _⟩
  · exact .inl ⟨dotted, fieldColumn_of_undotted dotted⟩

/-- A field is written as it is spelled, whether it names a table or not. -/
theorem fieldColumn_sql (field : String) : (fieldColumn field).sql = path field := by
  rcases fieldColumn_cases field with ⟨_, found⟩ | ⟨table, column, _, spelled, found⟩
  · rw [found]
    rfl
  · rw [found, spelled, path_dotted]
    rfl

/-- The fields that a query asks for. -/
def Query.requested (query : Query) : List String := query.fields.getD []

/-- What a requested field puts out. -/
def Query.output (query : Query) (dialect : Dialect) (field : String) : Output where
  column := fieldColumn field
  name := field
  castsMoney := dialect.castsMoney &&
    (query.table?.bind fun table => table.columns.get? (fieldColumn field).column).any Column.isMoney

theorem projection_eq (query : Query) (dialect : Dialect) :
    query.projection dialect =
      if query.requested = [] then .all
      else .columns (query.requested.map (query.output dialect)) := by
  unfold Query.projection Query.requested
  cases query.fields.getD [] with
  | nil => rfl
  | cons first rest =>
    rw [if_neg (List.cons_ne_nil first rest)]
    refine congrArg Projection.columns (List.map_congr_left fun field _ => ?_)
    unfold Query.output fieldColumn
    cases cutSelector field <;> rfl

/-! ## Names of tables -/

section
variable {query : Query} {table : String}

theorem aliasOf_eq_iff :
    query.aliasOf table = table ↔ ∀ label ∈ query.aliases.get? table, label = table := by
  unfold Query.aliasOf
  cases query.aliases.get? table <;> simp

/-- If aliases keep apart, then the real name of a table stands for nothing but the
table, and it does so if the table has no other name. -/
theorem real_name_declared_iff (apart : query.AliasesApart) (declared : table ∈ query.declaredTables) :
    table ∈ query.declaredTables.map query.aliasOf ↔ query.aliasOf table = table := by
  constructor
  · intro named
    obtain ⟨other, also, same⟩ := List.mem_map.1 named
    by_cases own : other = table
    · rwa [own] at same
    · unfold Query.aliasOf at same
      cases label : query.aliases.get? other with
      | none =>
        rw [label] at same
        exact absurd same own
      | some name =>
        rw [label] at same
        exact absurd same (apart other also table declared own name label).1
  · intro own
    exact own ▸ List.mem_map_of_mem declared

end

/-- The select list of a read has an output for each requested field, in their order,
and each is named as it is requested. For a field of a declared table, the column is
qualified with the real name of the table, whatever the table is declared under: with
the name that it is declared under only as long as no other alias is set for it. If
aliases keep apart, a qualifier that is not this name is declared by nothing. -/
theorem read_selects_by_real_names {compiler : Compiler} {query : Query} {compiled : Compiled}
    (reads : query.operation = .read) (compiles : compiler.compile query = .ok compiled) :
    ∃ read outputs, query.plan compiler.dialect compiler.rowCap compiler.returning = .ok (.select read) ∧
      compiled = compiler.write .read (.select read) ∧
      read.names = query.declaredTables.map query.aliasOf ∧
      read.clauses.projection = (if query.requested = [] then .all else .columns outputs) ∧
      outputs.map Output.name = query.requested ∧
      ∀ output ∈ outputs, ∀ table ∈ query.declaredTables, ∀ column,
        output.name = table ++ "." ++ column →
          output.column.sql = (ColumnRef.mk (some table) column).sql ∧
          (output.column.sql = (ColumnRef.mk (some (query.aliasOf table)) column).sql ↔
            ∀ label ∈ query.aliases.get? table, label = table) ∧
          (query.AliasesApart →
            (table ∈ read.names ↔ ∀ label ∈ query.aliases.get? table, label = table)) := by
  obtain ⟨window, joins, _, _, joined, rfl, planned, written⟩ := Query.read_ok reads compiles
  have names := declared_outer compiler.dialect compiler.rowCap joined
  refine ⟨_, query.requested.map (query.output compiler.dialect), planned, written, names,
    projection_eq query compiler.dialect, ?_, ?_⟩
  · rw [List.map_map]
    exact List.map_id _
  · intro output listed table declared column named
    obtain ⟨field, _, rfl⟩ := List.mem_map.1 listed
    have dotted : field = table ++ "." ++ column := named
    have spelled : (query.output compiler.dialect field).column.sql =
        (ColumnRef.mk (some table) column).sql := by
      rw [Query.output, fieldColumn_sql, dotted, path_dotted]
      rfl
    refine ⟨spelled, ?_, fun apart => ?_⟩
    · rw [spelled, ← aliasOf_eq_iff]
      exact ⟨fun same => (qualifier_of_sql same).symm, fun own => by rw [own]⟩
    · rw [← aliasOf_eq_iff, ← real_name_declared_iff apart declared, ← names]
      rfl

/-- Orders and their customers, of which only the customers have an alias. -/
def ordersOfCustomers : Query :=
  { Query.plain "orders" .read with
    aliases := .ofList [("customers", "c")]
    relationships := [.direct "customers" "customer_id" "id"]
    fields := some ["orders.id", "customers.name"] }

theorem orders_selected_by_real_names :
    ordersOfCustomers.operation = .read ∧ ordersOfCustomers.AliasesApart ∧
      ∃ compiled, (Compiler.of .postgres 10).compile ordersOfCustomers = .ok compiled ∧
        ∃ read outputs, compiled = (Compiler.of .postgres 10).write .read (.select read) ∧
          read.clauses.projection = .columns outputs ∧ read.names = ["orders", "c"] ∧
          outputs.map Output.name = ["orders.id", "customers.name"] ∧
          ∀ output ∈ outputs,
            (output.name = "orders.id" → output.column.sql = (ColumnRef.mk (some "orders") "id").sql) ∧
            (output.name = "customers.name" →
              output.column.sql ≠ (ColumnRef.mk (some "c") "name").sql ∧ "customers" ∉ read.names) := by
  have apart : ordersOfCustomers.AliasesApart := by decide +kernel
  have compiles : (Compiler.of .postgres 10).compile ordersOfCustomers = .ok _ := rfl
  obtain ⟨read, outputs, _, written, names, projected, named, fields⟩ :=
    read_selects_by_real_names rfl compiles
  have unlike : ¬ ∀ label ∈ ordersOfCustomers.aliases.get? "customers", label = "customers" := by
    decide +kernel
  refine ⟨rfl, apart, _, compiles, read, outputs, written, projected, names, named,
    fun output listed => ⟨fun own => ?_, fun own => ?_⟩⟩
  · exact (fields output listed "orders" (by decide) "id" own).1
  · obtain ⟨_, aliased, declared⟩ := fields output listed "customers" (by decide) "name" own
    exact ⟨fun same => unlike (aliased.1 same), fun found => unlike ((declared apart).1 found)⟩

/-- The name of each person, under an alias of the table. -/
def namesOfPersons : Query :=
  { Query.plain "persons" .read with
    aliases := .ofList [("persons", "a")]
    fields := some ["persons.name"] }

/-- Not every requested column is qualified with the name that its table is declared
under: the page of persons is named `a` here, and the name is asked of `persons`. -/
theorem alias_unused_in_select_list :
    (∃ compiled, (Compiler.of .postgres 5000).compile namesOfPersons = .ok compiled ∧
      compiled.text = "SELECT \"persons\".\"name\" AS \"persons.name\"" ++
        " FROM (SELECT * FROM \"persons\" AS \"a\" LIMIT 5000) AS \"a\"") ∧
    ¬ ∀ (compiler : Compiler) (query : Query) (compiled : Compiled), query.operation = .read →
      compiler.compile query = .ok compiled →
      ∃ read, query.plan compiler.dialect compiler.rowCap compiler.returning = .ok (.select read) ∧
        ∀ table ∈ query.declaredTables, ∀ column, table ++ "." ++ column ∈ query.requested →
          ∃ outputs, read.clauses.projection = .columns outputs ∧
            ∃ output ∈ outputs, output.name = table ++ "." ++ column ∧
              output.column.sql = (ColumnRef.mk (some (query.aliasOf table)) column).sql := by
  refine ⟨⟨_, rfl, by decide +kernel⟩, fun claimed => ?_⟩
  obtain ⟨read, planned, honoured⟩ := claimed (.of .postgres 5000) namesOfPersons _ rfl rfl
  cases planned
  obtain ⟨outputs, projected, output, listed, _, qualified⟩ :=
    honoured "persons" (by decide) "name" (by decide)
  cases projected
  rw [List.mem_singleton.1 listed] at qualified
  revert qualified
  decide +kernel

end Polyquery
