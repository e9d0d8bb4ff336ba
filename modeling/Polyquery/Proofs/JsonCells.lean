import Mathlib.Data.List.Forall2
import Mathlib.Data.List.Nodup
import Mathlib.Logic.Function.Iterate
import Polyquery.Execute.Materialize

/-! The JSON cells of a result. Only the text cells under the names of JSON columns are
touched, and each of them once: a text that is JSON becomes its value, and any other text
stays and is reported. No row is added or lost, no cell moves, and the reports come in the
order of the rows and columns. -/
namespace Polyquery

/-! ## Columns stored as JSON text -/

/-- The columns of a table that are stored as JSON text: documents, and lists of users. -/
def Table.StoresJson (table : Table) (name : String) : Prop :=
  ∃ column, table.columns.get? name = some column ∧
    (column.type = .json ∨ column.type = .reference ∧ column.subtype = some .users)

/-- The two keys under which a column may come back. -/
inductive Table.Spells (table : Table) (column : String) : String → Prop where
  | qualified : Spells table column (table.name ++ "." ++ column)
  | bare : Spells table column column

/-- A key of a column that is stored as JSON text. -/
def Table.IsJsonKey (table : Table) (key : String) : Prop :=
  ∃ column, table.StoresJson column ∧ table.Spells column key

/-- No JSON column has the qualified name of another one, so a key names one column. -/
def Table.JsonNamesApart (table : Table) : Prop :=
  ∀ column other, table.StoresJson column → table.StoresJson other →
    column ≠ table.name ++ "." ++ other

/-- The order of keys: by the name of the column, and of the two keys of a column the
qualified one first. -/
inductive Table.KeyBefore (table : Table) : String → String → Prop where
  | columns {column other key behind : String} (less : column < other)
    (stored : table.StoresJson column) (also : table.StoresJson other)
    (spells : table.Spells column key) (spellsOther : table.Spells other behind) :
    KeyBefore table key behind
  | keys {column : String} (stored : table.StoresJson column) :
    KeyBefore table (table.name ++ "." ++ column) column

section
variable {table : Table} {key behind column : String}

theorem isJson_iff {column : Column} :
    column.isJson = true ↔
      column.type = .json ∨ column.type = .reference ∧ column.subtype = some .users := by
  unfold Column.isJson
  split
  · next document => simp [document]
  · next reference => simp [reference]
  · next neither noReference =>
    simp only [Bool.false_eq_true, false_iff, not_or, not_and]
    exact ⟨neither, fun reference => absurd reference noReference⟩

theorem mem_jsonColumns : column ∈ table.jsonColumns ↔ table.StoresJson column := by
  unfold Table.jsonColumns Table.StoresJson
  rw [List.mem_map]
  constructor
  · rintro ⟨⟨name, stored⟩, listed, rfl⟩
    obtain ⟨inside, json⟩ := List.mem_filter.1 listed
    exact ⟨stored, Dictionary.get?_eq_some_iff.2 inside, isJson_iff.1 json⟩
  · rintro ⟨stored, found, json⟩
    refine ⟨(column, stored), List.mem_filter.2 ⟨?_, isJson_iff.2 json⟩, rfl⟩
    exact Dictionary.get?_eq_some_iff.1 found

instance (table : Table) : Decidable table.JsonNamesApart :=
  decidable_of_iff (∀ column ∈ table.jsonColumns, ∀ other ∈ table.jsonColumns,
    column ≠ table.name ++ "." ++ other) (by
      simp only [mem_jsonColumns, Table.JsonNamesApart]
      exact ⟨fun apart column other stored also => apart column stored other also,
        fun apart column stored other also => apart column other stored also⟩)

theorem jsonColumns_increasing (table : Table) :
    table.jsonColumns.Pairwise fun column other => column < other := by
  unfold Table.jsonColumns
  rw [List.pairwise_map]
  exact table.columns.increasing.filter _

theorem mem_spellings : key ∈ [table.name ++ "." ++ column, column] ↔ table.Spells column key := by
  rw [List.mem_pair]
  constructor
  · rintro (rfl | rfl)
    · exact .qualified
    · exact .bare
  · intro spells
    cases spells with
    | qualified => exact .inl rfl
    | bare => exact .inr rfl

theorem mem_jsonKeys : key ∈ table.jsonKeys ↔ table.IsJsonKey key := by
  unfold Table.jsonKeys Table.IsJsonKey
  rw [List.mem_flatMap]
  simp only [mem_spellings, mem_jsonColumns]

/-- The keys are listed in their order. -/
theorem jsonKeys_ordered (table : Table) : table.jsonKeys.Pairwise table.KeyBefore := by
  unfold Table.jsonKeys
  rw [List.pairwise_flatMap]
  constructor
  · intro column listed
    rw [List.pairwise_pair]
    exact .keys (mem_jsonColumns.1 listed)
  · refine (jsonColumns_increasing table).imp_of_mem fun listed also less => ?_
    intro key spells behind spellsOther
    exact .columns less (mem_jsonColumns.1 listed) (mem_jsonColumns.1 also)
      (mem_spellings.1 spells) (mem_spellings.1 spellsOther)

/-- If the names are apart, then no key stands in front of itself. -/
theorem ne_of_keyBefore (apart : table.JsonNamesApart) (before : table.KeyBefore key behind) :
    key ≠ behind := by
  intro same
  cases before with
  | keys stored => exact apart _ _ stored stored same.symm
  | @columns column other key behind less stored also spells spellsOther =>
    cases spells with
    | qualified =>
      cases spellsOther with
      | qualified => exact String.lt_irrefl column ((String.append_right_inj _).1 same ▸ less)
      | bare => exact apart _ _ also stored same.symm
    | bare =>
      cases spellsOther with
      | qualified => exact apart _ _ stored also same
      | bare => exact String.lt_irrefl key (same ▸ less)

theorem jsonKeys_nodup (apart : table.JsonNamesApart) : table.jsonKeys.Nodup :=
  (jsonKeys_ordered table).imp fun before => ne_of_keyBefore apart before

end

/-! ## Cells -/

/-- A JSON text parsed; anything else as it is. -/
def parsedText : Json → Json
  | .string text => (Json.parse? text).getD (.string text)
  | other => other

/-- What is reported of the cell under a key. -/
def faultOf? (index : Nat) (row : Row) (key : String) : Option CellFault :=
  match row.get? key with
  | some (.string text) => if (Json.parse? text).isNone then some ⟨index, key⟩ else none
  | _ => none

section
variable (index : Nat) (keys : List String) (state : Row × List CellFault) (key name : String)

/-- Parsing under a key is all that happens to a row. -/
theorem get?_parseCell :
    (parseCell index state key).1.get? name =
      (state.1.get? name).map (if key = name then parsedText else id) := by
  unfold parseCell
  split
  · next text found =>
    split
    · next value parsed =>
      rw [Record.get?_insert]
      split
      · next same => simp [← same, found, parsedText, parsed]
      · simp
    · next malformed =>
      split
      · next same => simp [← same, found, parsedText, malformed]
      · simp
  · next noText =>
    split
    · next same =>
      subst same
      cases found : state.1.get? key with
      | none => rfl
      | some value =>
        cases value with
        | string text => exact absurd found (noText text)
        | _ => rfl
    · simp

theorem get?_parseCells :
    (keys.foldl (parseCell index) state).1.get? name =
      (state.1.get? name).map parsedText^[keys.count name] := by
  induction keys generalizing state with
  | nil => simp
  | cons key rest ih =>
    rw [List.foldl_cons, ih, get?_parseCell, Option.map_map, List.count_cons]
    by_cases same : key = name
    · simp only [same, ↓reduceIte, beq_self_eq_true, Function.iterate_succ]
    · simp [same]

/-- A parsed cell stays in its place. -/
theorem keys_parseCell : (parseCell index state key).1.keys = state.1.keys := by
  unfold parseCell
  split
  · next text found =>
    split
    · have known : key ∈ state.1.entries.map Prod.fst :=
        List.mem_map_of_mem (Record.get?_eq_some_iff.1 found)
      have keys := Record.keys_put key ‹Json› state.1.entries
      rw [if_pos known] at keys
      exact keys
    · rfl
  · rfl

theorem keys_parseCells : (keys.foldl (parseCell index) state).1.keys = state.1.keys := by
  induction keys generalizing state with
  | nil => rfl
  | cons key rest ih => rw [List.foldl_cons, ih, keys_parseCell]

/-- One step reports what there is to report under its key. -/
theorem faults_parseCell :
    (parseCell index state key).2 = state.2 ++ (faultOf? index state.1 key).toList := by
  unfold parseCell faultOf?
  cases found : state.1.get? key with
  | none => simp
  | some cell =>
    cases cell with
    | string text => cases parsed : Json.parse? text <;> simp [parsed]
    | _ => simp

/-- What is reported of a key does not change while other keys are parsed. -/
theorem faultOf?_parseCell (other : key ≠ name) :
    faultOf? index (parseCell index state key).1 name = faultOf? index state.1 name := by
  have kept : (parseCell index state key).1.get? name = state.1.get? name := by
    rw [get?_parseCell, if_neg other, Option.map_id_fun, id_eq]
  rw [faultOf?, kept, faultOf?]

/-- Distinct keys are reported one by one, as the row came. -/
theorem faults_parseCells (distinct : keys.Nodup) :
    (keys.foldl (parseCell index) state).2 = state.2 ++ keys.filterMap (faultOf? index state.1) := by
  induction keys generalizing state with
  | nil => simp
  | cons key rest ih =>
    obtain ⟨fresh, others⟩ := List.nodup_cons.1 distinct
    have later : rest.filterMap (faultOf? index (parseCell index state key).1) =
        rest.filterMap (faultOf? index state.1) := by
      apply List.filterMap_congr
      intro name listed
      exact faultOf?_parseCell index state key name fun same => fresh (same ▸ listed)
    rw [List.foldl_cons, ih _ others, faults_parseCell, later, List.append_assoc]
    cases reported : faultOf? index state.1 key <;> simp [reported]

end

theorem faultOf?_eq_some {index : Nat} {row : Row} {key : String} {fault : CellFault} :
    faultOf? index row key = some fault ↔
      fault = ⟨index, key⟩ ∧ ∃ text, row.get? key = some (.string text) ∧ Json.parse? text = none := by
  unfold faultOf?
  cases found : row.get? key with
  | none => simp
  | some cell =>
    cases cell with
    | string text => cases parsed : Json.parse? text <;> simp [parsed, eq_comm]
    | _ => simp

/-! ## Rows -/

/-- A row with its JSON cells parsed. -/
structure Table.Parses (table : Table) (row parsed : Row) : Prop where
  keys : parsed.keys = row.keys
  /-- A JSON text under the key of a JSON column becomes its value. -/
  decoded : ∀ key text value, table.IsJsonKey key → row.get? key = some (.string text) →
    Json.parse? text = some value → parsed.get? key = some value
  /-- Every other cell is what it was. -/
  kept : ∀ key cell, row.get? key = some cell →
    (∀ text value, table.IsJsonKey key → cell = .string text → Json.parse? text ≠ some value) →
    parsed.get? key = some cell

/-- Rows with their JSON cells parsed, and what is reported of them. -/
structure Table.Materializes (table : Table) (rows parsed : List Row) (faults : List CellFault) :
    Prop where
  rowwise : List.Forall₂ table.Parses rows parsed
  /-- The text cells under the keys of JSON columns that are no JSON are reported. -/
  reported : ∀ fault, fault ∈ faults ↔ ∃ row text, rows[fault.row]? = some row ∧
    table.IsJsonKey fault.column ∧ row.get? fault.column = some (.string text) ∧
    Json.parse? text = none
  once : faults.Nodup
  ordered : faults.Pairwise fun fault later => fault.row < later.row ∨
    fault.row = later.row ∧ table.KeyBefore fault.column later.column

section
variable {table : Table} (apart : table.JsonNamesApart)
include apart

/-- A cell under the key of a JSON column is parsed once, and no other one is. -/
theorem get?_parseRow (index : Nat) (row : Row) (name : String) :
    ((table.IsJsonKey name → (table.parseRow index row).1.get? name = (row.get? name).map parsedText)) ∧
      (¬ table.IsJsonKey name → (table.parseRow index row).1.get? name = row.get? name) := by
  unfold Table.parseRow
  rw [get?_parseCells]
  constructor
  · intro json
    rw [List.count_eq_one_of_mem (jsonKeys_nodup apart) (mem_jsonKeys.2 json), Function.iterate_one]
  · intro other
    rw [List.count_eq_zero.2 fun listed => other (mem_jsonKeys.1 listed), Function.iterate_zero,
      Option.map_id_fun, id_eq]

theorem parses_parseRow (index : Nat) (row : Row) : table.Parses row (table.parseRow index row).1 where
  keys := keys_parseCells index table.jsonKeys (row, [])
  decoded key text value json found parsed := by
    rw [(get?_parseRow apart index row key).1 json, found, Option.map_some, parsedText, parsed]
    rfl
  kept key cell found other := by
    by_cases json : table.IsJsonKey key
    · rw [(get?_parseRow apart index row key).1 json, found, Option.map_some]
      cases cell with
      | string text =>
        cases parsed : Json.parse? text with
        | none => rw [parsedText, parsed]; rfl
        | some value => exact absurd parsed (other text value json rfl)
      | _ => rfl
    · rw [(get?_parseRow apart index row key).2 json, found]

theorem faults_parseRow (index : Nat) (row : Row) :
    (table.parseRow index row).2 = table.jsonKeys.filterMap (faultOf? index row) := by
  rw [Table.parseRow, faults_parseCells index _ (row, []) (jsonKeys_nodup apart), List.nil_append]

theorem mem_faults_parseRow {index : Nat} {row : Row} {fault : CellFault} :
    fault ∈ (table.parseRow index row).2 ↔ fault.row = index ∧ table.IsJsonKey fault.column ∧
      ∃ text, row.get? fault.column = some (.string text) ∧ Json.parse? text = none := by
  rw [faults_parseRow apart, List.mem_filterMap]
  constructor
  · rintro ⟨key, listed, report⟩
    obtain ⟨rfl, malformed⟩ := faultOf?_eq_some.1 report
    exact ⟨rfl, mem_jsonKeys.1 listed, malformed⟩
  · rintro ⟨rfl, json, malformed⟩
    exact ⟨fault.column, mem_jsonKeys.2 json, faultOf?_eq_some.2 ⟨rfl, malformed⟩⟩

/-- The reports of a row come in the order of the keys. -/
theorem faults_parseRow_ordered (index : Nat) (row : Row) :
    (table.parseRow index row).2.Pairwise fun fault later =>
      fault.row = later.row ∧ table.KeyBefore fault.column later.column := by
  rw [faults_parseRow apart]
  apply List.Pairwise.filterMap _ _ (jsonKeys_ordered table)
  intro key behind before fault report later reportLater
  obtain ⟨rfl, _⟩ := faultOf?_eq_some.1 report
  obtain ⟨rfl, _⟩ := faultOf?_eq_some.1 reportLater
  exact ⟨rfl, before⟩

/-- The reports come in the order of the rows, and in each row in the order of the keys. -/
theorem faults_ordered (rows : List Row) :
    (table.materialize rows).2.Pairwise fun fault later => fault.row < later.row ∨
      fault.row = later.row ∧ table.KeyBefore fault.column later.column := by
  unfold Table.materialize
  rw [List.pairwise_flatMap]
  constructor
  · intro parsed listed
    obtain ⟨index, bound, rfl⟩ := List.mem_mapIdx.1 listed
    exact (faults_parseRow_ordered apart index rows[index]).imp fun ordered => .inr ordered
  · rw [List.pairwise_iff_getElem]
    intro first second bound later less fault inside behind insideBehind
    rw [List.getElem_mapIdx] at inside insideBehind
    have row := ((mem_faults_parseRow apart).1 inside).1
    have rowBehind := ((mem_faults_parseRow apart).1 insideBehind).1
    exact .inl (by omega)

end

/-- The JSON cells of a result are parsed, and nothing else happens to it. If the JSON names
of the table are apart, then every row stays with its keys in their order. A text under the
key of a JSON column, its own name or the one qualified with the table, is replaced by the
value that it spells, once; every other cell is what it was. Each text under such a key that
is no JSON is reported with its row and key, and nothing else: once, by the order of rows,
then of columns, the qualified key in front of the bare one. -/
theorem json_cells_are_parsed (table : Table) (apart : table.JsonNamesApart) (rows : List Row) :
    table.Materializes rows (table.materialize rows).1 (table.materialize rows).2 where
  rowwise := by
    refine List.forall₂_iff_get.2 ⟨by simp [Table.materialize], ?_⟩
    intro index bound _
    simp only [Table.materialize, List.get_eq_getElem, List.getElem_map, List.getElem_mapIdx]
    exact parses_parseRow apart index _
  reported fault := by
    unfold Table.materialize
    rw [List.mem_flatMap]
    constructor
    · rintro ⟨parsed, listed, inside⟩
      obtain ⟨index, bound, rfl⟩ := List.mem_mapIdx.1 listed
      obtain ⟨rfl, json, text, found, malformed⟩ := (mem_faults_parseRow apart).1 inside
      exact ⟨_, text, List.getElem?_eq_getElem bound, json, found, malformed⟩
    · rintro ⟨row, text, there, json, found, malformed⟩
      obtain ⟨bound, rfl⟩ := List.getElem?_eq_some_iff.1 there
      refine ⟨table.parseRow fault.row rows[fault.row], ?_, ?_⟩
      · exact List.mem_mapIdx.2 ⟨fault.row, bound, rfl⟩
      · exact (mem_faults_parseRow apart).2 ⟨rfl, json, text, found, malformed⟩
  once := by
    rw [List.nodup_iff_pairwise_ne]
    refine (faults_ordered apart rows).imp ?_
    rintro fault later before rfl
    rcases before with less | ⟨_, before⟩
    · exact Nat.lt_irrefl _ less
    · exact ne_of_keyBefore apart before rfl
  ordered := faults_ordered apart rows

/-- Persons with a document and a list of their owners. -/
def personsWithDocuments : Table where
  name := "persons"
  primary := ["id"]
  columns := .ofList [("meta", ⟨.json, none, none⟩), ("owners", ⟨.reference, some .users, none⟩),
    ("name", ⟨.string, none, none⟩)]

/-- Rows with documents of every kind: one that spells a text, others that are none, and
what looks like one in a column of texts. -/
def documentRows : List Row :=
  [.ofList [("persons.meta", .string "\x7b\"a\":[true]\x7d"), ("owners", .string "[oops"),
      ("name", .string "[1]"), ("meta", .string "")],
    .ofList [("meta", .string "\"[]\""), ("persons.owners", .string "x"), ("owners", .null)]]

theorem document_rows_are_parsed :
    personsWithDocuments.JsonNamesApart ∧ ∃ parsed faults,
      personsWithDocuments.Materializes documentRows parsed faults ∧
      parsed = [.ofList [("persons.meta", .object [("a", .array [.bool true])]), ("owners", .string "[oops"),
          ("name", .string "[1]"), ("meta", .string "")],
        .ofList [("meta", .string "[]"), ("persons.owners", .string "x"), ("owners", .null)]] ∧
      faults = [⟨0, "meta"⟩, ⟨0, "owners"⟩, ⟨1, "persons.owners"⟩] := by
  have apart : personsWithDocuments.JsonNamesApart := by decide +kernel
  exact ⟨apart, _, _, json_cells_are_parsed _ apart documentRows, by decide +kernel, by decide +kernel⟩

end Polyquery
