import Polyquery.Proofs.JsonCells
import Polyquery.Proofs.Running
import Polyquery.Proofs.SelectList

/-! JSON columns that a read asks for. An output of the select list is named as the request spells
it, and a column of the page goes by the name of the page, which is an alias if there is one. What
comes back is parsed under the keys of the described table, and these know its real name only. So a
requested JSON column is decoded or reported exactly if its output is named by such a key; under an
alias it is left as text, and nothing tells of it. -/
namespace Polyquery
open Sql

/-! ## Text cells -/

/-- What a text in a row comes back as. -/
inductive Table.ComesBack (table : Table) (faults : List CellFault) (index : Nat) (name text : String) :
    Json → Prop where
  /-- The value that the text spells. It is parsed again if the name is a key of further columns. -/
  | decoded {value : Json} (spelled : Json.parse? text = some value) (again : Nat)
    (once : table.JsonNamesApart → again = 0) :
    ComesBack table faults index name text (parsedText^[again] value)
  /-- The text, which is no JSON and is reported. -/
  | reported (malformed : Json.parse? text = none) (listed : ⟨index, name⟩ ∈ faults) :
    ComesBack table faults index name text (.string text)

/-- Each text under a name is decoded, or reported. -/
def Table.Decodes (table : Table) (name : String) (given rows : List Row) (faults : List CellFault) :
    Prop :=
  ∀ (index : Nat) (row : Row) (text : String), given[index]? = some row →
    row.get? name = some (.string text) → ∃ (parsed : Row) (cell : Json), rows[index]? = some parsed ∧
      parsed.get? name = some cell ∧ table.ComesBack faults index name text cell

/-- What stands under a name stays, and is not reported. -/
structure Overlooks (name : String) (given rows : List Row) (faults : List CellFault) : Prop where
  kept : ∀ (index : Nat) (row : Row), given[index]? = some row →
    ∃ parsed : Row, rows[index]? = some parsed ∧ parsed.get? name = row.get? name
  silent : ∀ fault ∈ faults, fault.column ≠ name

section
variable {table : Table} {index : Nat} {keys : List String} {state : Row × List CellFault}
  {name text : String} {row : Row} {rows : List Row}

/-- A text that is no JSON stays as it is while keys are parsed, and is reported under its own. -/
theorem reported_of_malformed (malformed : Json.parse? text = none)
    (found : state.1.get? name = some (.string text))
    (listed : name ∈ keys ∨ ⟨index, name⟩ ∈ state.2) :
    ⟨index, name⟩ ∈ (keys.foldl (parseCell index) state).2 := by
  induction keys generalizing state with
  | nil => exact listed.resolve_left List.not_mem_nil
  | cons key rest ih =>
    have kept : (parseCell index state key).1.get? name = some (.string text) := by
      rw [get?_parseCell, found, Option.map_some]
      split
      · rw [parsedText, malformed]
        rfl
      · rfl
    refine ih kept ?_
    rw [faults_parseCell]
    rcases listed with later | known
    · rcases List.mem_cons.1 later with rfl | later
      · have report : faultOf? index state.1 name = some ⟨index, name⟩ :=
          faultOf?_eq_some.2 ⟨rfl, text, found, malformed⟩
        exact .inr (List.mem_append_right _ (Option.mem_toList.2 report))
      · exact .inl later
    · exact .inr (List.mem_append_left _ known)

/-- Nothing is reported but under the keys that are parsed. -/
theorem column_of_fault {fault : CellFault} (inside : fault ∈ (keys.foldl (parseCell index) state).2) :
    fault ∈ state.2 ∨ fault.column ∈ keys := by
  induction keys generalizing state with
  | nil => exact .inl inside
  | cons key rest ih =>
    rcases ih inside with known | later
    · rw [faults_parseCell, List.mem_append, Option.mem_toList] at known
      rcases known with known | report
      · exact .inl known
      · obtain ⟨rfl, _⟩ := faultOf?_eq_some.1 report
        exact .inr List.mem_cons_self
    · exact .inr (List.mem_cons_of_mem key later)

/-- A text under a key of the table comes back as a value, or is reported. -/
theorem comesBack_parseRow (index : Nat) (json : table.IsJsonKey name) (found : row.get? name = some (.string text)) :
    ∃ cell, (table.parseRow index row).1.get? name = some cell ∧
      table.ComesBack (table.parseRow index row).2 index name text cell := by
  have listed : name ∈ table.jsonKeys := mem_jsonKeys.2 json
  obtain ⟨again, counted⟩ := Nat.exists_eq_succ_of_ne_zero
    (Nat.ne_of_gt (List.count_pos_iff.2 listed))
  have parsed : (table.parseRow index row).1.get? name =
      some (parsedText^[again] (parsedText (.string text))) := by
    rw [Table.parseRow, get?_parseCells, counted, found, Option.map_some, Function.iterate_succ_apply]
  refine ⟨_, parsed, ?_⟩
  cases spelled : Json.parse? text with
  | some value =>
    have once (apart : table.JsonNamesApart) : again = 0 := by
      rw [List.count_eq_one_of_mem (jsonKeys_nodup apart) listed] at counted
      omega
    rw [parsedText, spelled]
    exact .decoded spelled again once
  | none =>
    have fixed : parsedText (.string text) = .string text := by
      rw [parsedText, spelled]
      rfl
    rw [fixed, Function.iterate_fixed fixed]
    exact .reported spelled (reported_of_malformed spelled found (.inl listed))

/-- A text under another name stays, and nothing is reported of it. -/
theorem unseen_parseRow (other : ¬ table.IsJsonKey name) :
    (table.parseRow index row).1.get? name = row.get? name ∧
      ∀ fault ∈ (table.parseRow index row).2, fault.column ≠ name := by
  have unlisted : name ∉ table.jsonKeys := fun listed => other (mem_jsonKeys.1 listed)
  constructor
  · rw [Table.parseRow, get?_parseCells, List.count_eq_zero.2 unlisted, Function.iterate_zero,
      Option.map_id_fun, id_eq]
  · rintro fault inside rfl
    rcases column_of_fault inside with known | listed
    · cases known
    · exact unlisted listed

theorem materialize_row (there : rows[index]? = some row) :
    (table.materialize rows).1[index]? = some (table.parseRow index row).1 := by
  simp [Table.materialize, there]

theorem mem_faults_materialize {fault : CellFault} :
    fault ∈ (table.materialize rows).2 ↔
      ∃ index row, rows[index]? = some row ∧ fault ∈ (table.parseRow index row).2 := by
  unfold Table.materialize
  rw [List.mem_flatMap]
  constructor
  · rintro ⟨parsed, listed, inside⟩
    obtain ⟨index, bound, rfl⟩ := List.mem_mapIdx.1 listed
    exact ⟨index, _, List.getElem?_eq_getElem bound, inside⟩
  · rintro ⟨index, row, there, inside⟩
    obtain ⟨bound, rfl⟩ := List.getElem?_eq_some_iff.1 there
    exact ⟨_, List.mem_mapIdx.2 ⟨index, bound, rfl⟩, inside⟩

/-- Under a key of the table, texts are decoded in all rows. -/
theorem decodes_materialize (json : table.IsJsonKey name) (rows : List Row) :
    table.Decodes name rows (table.materialize rows).1 (table.materialize rows).2 := by
  intro index row text there found
  obtain ⟨cell, parsed, back⟩ := comesBack_parseRow index json found
  refine ⟨_, cell, materialize_row there, parsed, ?_⟩
  cases back with
  | decoded spelled again once => exact .decoded spelled again once
  | reported malformed listed =>
    exact .reported malformed (mem_faults_materialize.2 ⟨index, row, there, listed⟩)

theorem overlooks_materialize (other : ¬ table.IsJsonKey name) (rows : List Row) :
    Overlooks name rows (table.materialize rows).1 (table.materialize rows).2 where
  kept _ _ there := ⟨_, materialize_row there, (unseen_parseRow other).1⟩
  silent fault inside := by
    obtain ⟨_, _, _, report⟩ := mem_faults_materialize.1 inside
    exact (unseen_parseRow other).2 fault report

/-! ## Keys -/

/-- Behind a name without dots, a column has a key of the table only if this is the name of the
table, or if a JSON column is named just so. -/
theorem isJsonKey_qualified_iff {label column : String} (stored : table.StoresJson column)
    (real : '.' ∉ table.name.toList) (undotted : '.' ∉ label.toList) :
    table.IsJsonKey (label ++ "." ++ column) ↔
      label = table.name ∨ table.StoresJson (label ++ "." ++ column) := by
  constructor
  · rintro ⟨other, also, spells⟩
    generalize key : label ++ "." ++ column = name at spells
    cases spells with
    | qualified =>
      have same := (fieldColumn_of_table undotted column).symm.trans
        ((congrArg fieldColumn key).trans (fieldColumn_of_table real other))
      simp only [ColumnRef.mk.injEq, Option.some.injEq] at same
      exact .inl same.1
    | bare => exact .inr also
  · rintro (rfl | also)
    · exact ⟨column, stored, .qualified⟩
    · exact ⟨_, also, .bare⟩

end

/-! ## Reads -/

/-- The run of a read whose statement is answered. -/
theorem run_read {query : Query} {dialect : Dialect} {cap : Nat} (process : List Row → List Row)
    {S : Type} {serve : S → Compiled → Except Error Response × S} {start after : S}
    {compiled : Compiled} {response : Response} (reads : query.operation = .read)
    (compiles : (Compiler.of dialect cap).compile query = .ok compiled)
    (served : serve start compiled = (.ok response, after)) :
    (query.conversation dialect cap process).run serve start =
      ⟨[⟨compiled, .ok response⟩], .ok (query.readOutcome (process response.rows)), after⟩ := by
  rw [Query.conversation, Query.converse, reads]
  simp only [compiles, Conversation.say, Conversation.run_send_ok served]
  rfl

/-- A read asks for a JSON column of its table, qualified with the name under which the page is
declared, and the statement is answered. The output is this column of the page, under the name of
the field. If that is a key of the table, then each text that comes back under it is decoded, or
stays and is reported; if not, then it stays and nothing is reported of it. It is one if the table
has no other name in the query. Behind an alias it is none, dots apart, unless another JSON column
is named just so. -/
theorem requested_json_is_decoded_under_keys {query : Query} {dialect : Dialect} {cap : Nat}
    {table : Table} {column : String} {compiled : Compiled} {response : Response} {S : Type}
    {serve : S → Compiled → Except Error Response × S} {start after : S}
    (reads : query.operation = .read) (described : query.table? = some table)
    (own : table.name = query.tableName) (stored : table.StoresJson column)
    (asked : query.aliasOf query.tableName ++ "." ++ column ∈ query.requested)
    (compiles : (Compiler.of dialect cap).compile query = .ok compiled)
    (served : serve start compiled = (.ok response, after)) (process : List Row → List Row) :
    ∃ (read : Select) (outputs : List Output) (output : Output) (rows : List Row)
      (faults : List CellFault),
      compiled = (Compiler.of dialect cap).write .read (.select read) ∧
      read.names = query.declaredTables.map query.aliasOf ∧
      read.clauses.projection = .columns outputs ∧ output ∈ outputs ∧
      output.name = query.aliasOf query.tableName ++ "." ++ column ∧
      output.column.sql = (ColumnRef.mk (some (query.aliasOf query.tableName)) column).sql ∧
      (query.conversation dialect cap process).run serve start =
        ⟨[⟨compiled, .ok response⟩], .ok (.rows rows faults), after⟩ ∧
      (table.IsJsonKey output.name →
        table.Decodes output.name (process response.rows) rows faults) ∧
      (¬ table.IsJsonKey output.name →
        Overlooks output.name (process response.rows) rows faults) ∧
      ((∀ label ∈ query.aliases.get? query.tableName, label = query.tableName) →
        table.IsJsonKey output.name) ∧
      ('.' ∉ query.tableName.toList → '.' ∉ (query.aliasOf query.tableName).toList →
        (table.IsJsonKey output.name ↔
          query.aliasOf query.tableName = query.tableName ∨ table.StoresJson output.name)) := by
  obtain ⟨window, joins, _, _, joined, rfl, _, written⟩ := Query.read_ok reads compiles
  have projected := projection_eq query dialect
  rw [if_neg (List.ne_nil_of_mem asked)] at projected
  have ran := run_read process reads compiles served
  rw [Query.readOutcome, described] at ran
  refine ⟨_, _, query.output dialect (query.aliasOf query.tableName ++ "." ++ column), _, _, written,
    declared_outer dialect cap joined, projected, List.mem_map_of_mem asked, rfl, ?_, ran,
    fun json => decodes_materialize json _, fun other => overlooks_materialize other _, fun named => ?_,
    fun real label => ?_⟩
  · rw [Query.output, fieldColumn_sql, path_dotted]
    rfl
  · rw [Query.output, aliasOf_eq_iff.2 named, ← own]
    exact ⟨column, stored, .qualified⟩
  · rw [← own] at real ⊢
    rw [← own] at label
    exact isJsonKey_qualified_iff stored real label

/-- The documents of persons. -/
def documentsOfPersons : Query :=
  { Query.plain "persons" .read with
    fields := some ["persons.meta"]
    details := some ⟨some personsWithDocuments⟩ }

/-- Two persons whose documents come back under a name; the second one is none. -/
def twoDocuments (name : String) : List Row :=
  [.ofList [(name, .string "\x7b\"a\":[true]\x7d")], .ofList [(name, .string "oops")]]

theorem documents_of_persons_are_decoded :
    documentsOfPersons.operation = .read ∧ personsWithDocuments.StoresJson "meta" ∧
      ∃ compiled rows faults, (Compiler.of .mysql 10).compile documentsOfPersons = .ok compiled ∧
        (documentsOfPersons.conversation .mysql 10 id).run Conversation.scripted
            [.ok ⟨twoDocuments "persons.meta", none⟩] =
          ⟨[⟨compiled, .ok ⟨twoDocuments "persons.meta", none⟩⟩], .ok (.rows rows faults), []⟩ ∧
        personsWithDocuments.Decodes "persons.meta" (twoDocuments "persons.meta") rows faults := by
  have stored : personsWithDocuments.StoresJson "meta" := ⟨_, rfl, .inl rfl⟩
  have compiles : (Compiler.of .mysql 10).compile documentsOfPersons = .ok _ := rfl
  have served (compiled : Compiled) :
    Conversation.scripted [.ok ⟨twoDocuments "persons.meta", none⟩] compiled =
      (.ok ⟨twoDocuments "persons.meta", none⟩, []) := rfl
  obtain ⟨_, _, output, rows, faults, _, _, _, _, named, _, ran, decodes, _, unaliased, _⟩ :=
    requested_json_is_decoded_under_keys rfl rfl rfl stored (by decide) compiles (served _) id
  have name : output.name = "persons.meta" := named
  have json := unaliased (by decide +kernel)
  rw [name] at decodes json
  exact ⟨rfl, stored, _, rows, faults, compiles, ran, decodes json⟩

/-- The documents of persons under an alias. -/
def documentsUnderAlias : Query :=
  { documentsOfPersons with
    aliases := .ofList [("persons", "a")]
    fields := some ["a.meta"] }

/-- Under an alias documents are not decoded, and no text that is none is reported. -/
theorem documents_under_alias_are_overlooked :
    (∃ compiled, (documentsUnderAlias.conversation .mysql 10 id).run Conversation.scripted
        [.ok ⟨twoDocuments "a.meta", none⟩] =
      ⟨[⟨compiled, .ok ⟨twoDocuments "a.meta", none⟩⟩], .ok (.rows (twoDocuments "a.meta") []), []⟩ ∧
      compiled.text =
        "SELECT `a`.`meta` AS `a.meta` FROM (SELECT * FROM `persons` AS `a` LIMIT 10) AS `a`") ∧
    ¬ ∀ (query : Query) (dialect : Dialect) (cap : Nat) (table : Table) (column : String)
        (compiled : Compiled) (response : Response) (S : Type)
        (serve : S → Compiled → Except Error Response × S) (start after : S)
        (process : List Row → List Row),
      query.operation = .read → query.table? = some table → table.name = query.tableName →
      table.StoresJson column → query.aliasOf query.tableName ++ "." ++ column ∈ query.requested →
      (Compiler.of dialect cap).compile query = .ok compiled →
      serve start compiled = (.ok response, after) →
      ∃ rows faults, ((query.conversation dialect cap process).run serve start).result =
          .ok (.rows rows faults) ∧
        table.Decodes (query.aliasOf query.tableName ++ "." ++ column) (process response.rows) rows
          faults := by
  have stored : personsWithDocuments.StoresJson "meta" := ⟨_, rfl, .inl rfl⟩
  have compiles : (Compiler.of .mysql 10).compile documentsUnderAlias = .ok _ := rfl
  have served (compiled : Compiled) :
    Conversation.scripted [.ok ⟨twoDocuments "a.meta", none⟩] compiled =
      (.ok ⟨twoDocuments "a.meta", none⟩, []) := rfl
  have untouched : documentsUnderAlias.readOutcome (twoDocuments "a.meta") =
    .rows (twoDocuments "a.meta") [] := by decide +kernel
  have malformed : Json.parse? "oops" = none := by decide +kernel
  have ran := run_read id rfl compiles (served _)
  rw [id, untouched] at ran
  refine ⟨⟨_, ran, by decide +kernel⟩, fun claimed => ?_⟩
  obtain ⟨rows, faults, result, decodes⟩ := claimed documentsUnderAlias .mysql 10 personsWithDocuments
    "meta" _ _ _ _ _ _ id rfl rfl rfl stored (by decide +kernel) compiles (served _)
  rw [ran] at result
  cases result
  obtain ⟨parsed, cell, _, _, back⟩ := decodes 1 _ "oops" rfl (by decide +kernel)
  cases back with
  | decoded spelled => simp [malformed] at spelled
  | reported _ listed => cases listed

end Polyquery
