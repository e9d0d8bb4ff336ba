import Mathlib.Data.List.Nodup
import Mathlib.Data.List.Perm.Basic
import Polyquery.Sql.Statement

/-! The matrix of an insert of several rows. Its columns are all that the rows have, each
once. A row is emptied column by column, and every cell that is taken out makes its last
one move into the gap; but what is left finds the same under every other column, and so
each cell of a row ends up under its own column, and no other does. -/
namespace Polyquery
open Sql

/-- What is not found is no name of the record. -/
theorem Record.get?_eq_none_iff {record : Record Value} {name : String} :
    record.get? name = none ↔ name ∉ record.keys := by
  refine ⟨fun missing known => ?_, Record.get?_eq_none⟩
  obtain ⟨⟨_, value⟩, inside, rfl⟩ := List.mem_map.1 known
  have found := Record.get?_eq_some_iff.2 inside
  rw [missing] at found
  cases found

namespace Sql.Insert

/-! ## Columns -/

/-- Gathering columns is writing cells over each other and forgetting the values. -/
private theorem foldl_columns (cells : List (String × Value)) (start : Record Value) :
    cells.foldl (fun columns (column, _) =>
        if columns.contains column then columns else columns ++ [column]) start.keys =
      (cells.foldl (fun record (name, value) => record.insert name value) start).keys := by
  induction cells generalizing start with
  | nil => rfl
  | cons cell rest ih =>
    obtain ⟨column, value⟩ := cell
    have step : (start.insert column value).keys =
        if start.keys.contains column then start.keys else start.keys ++ [column] := by
      simp only [List.contains_iff_mem]
      exact Record.keys_put column value start.entries
    rw [List.foldl_cons, List.foldl_cons, ← ih, step]

/-- The columns of rows are the names of the record that all their cells make. -/
theorem columnsOf_eq (rows : List (List (String × Value))) :
    columnsOf rows = (Record.ofList rows.flatten).keys := by
  rw [Record.ofList, ← foldl_columns, List.foldl_flatten]
  rfl

theorem nodup_columnsOf (rows : List (List (String × Value))) : (columnsOf rows).Nodup := by
  rw [columnsOf_eq]
  exact (Record.ofList rows.flatten).distinct

theorem columnsOf_entries (rows : List (Record Value)) :
    columnsOf (rows.map Record.entries) = (rows.flatMap Record.keys).eraseDups := by
  rw [columnsOf_eq, Record.keys_ofList, List.map_flatten, List.map_map]
  rfl

/-! ## Cells -/

/-- With the last cell moved into its place, a row has lost one cell and no other. -/
theorem perm_moved {row : List (String × Value)} {index : Nat} {cell last : String × Value}
    (here : row[index]? = some cell) (ends : row.getLast? = some last) :
    row.Perm (cell :: (row.set index last).dropLast) := by
  obtain ⟨inside, rfl⟩ := List.getElem?_eq_some_iff.1 here
  obtain ⟨front, back, shape, _, moved⟩ := @List.exists_of_set _ index last row inside
  rw [moved, List.dropLast_append_cons]
  generalize row[index] = cell at shape ⊢
  rw [shape] at ends ⊢
  refine List.perm_middle.trans (List.Perm.cons cell (List.Perm.append_left front ?_))
  cases back with
  | nil => simp
  | cons next others =>
    have final : last ∈ (next :: others).getLast? := by simpa [List.getLast?_append] using ends
    have whole : (next :: others).dropLast ++ [last] = next :: others :=
      List.dropLast_append_getLast? last final
    rw [List.dropLast_cons_cons]
    nth_rewrite 1 [← whole]
    exact List.perm_append_singleton last _

/-- A cell is taken out, or there is none under the column. -/
theorem takeCell_cases (column : String) (row : List (String × Value)) :
    (takeCell column row = (none, row) ∧ column ∉ row.map Prod.fst) ∨
    ∃ value rest, takeCell column row = (some value, rest) ∧ row.Perm ((column, value) :: rest) := by
  unfold takeCell
  cases found : row.findIdx? fun cell => cell.1 == column with
  | none =>
    refine .inl ⟨rfl, fun known => ?_⟩
    obtain ⟨cell, inside, same⟩ := List.mem_map.1 known
    have other := List.findIdx?_eq_none_iff.1 found cell inside
    simp [same] at other
  | some index =>
    obtain ⟨inside, named, _⟩ := List.findIdx?_eq_some_iff_getElem.1 found
    have here : row[index]? = some row[index] := List.getElem?_eq_getElem inside
    have nonempty : row ≠ [] := List.ne_nil_of_length_pos (Nat.zero_lt_of_lt inside)
    have ends : row.getLast? = some (row.getLast nonempty) := List.getLast?_eq_some_getLast nonempty
    have name : row[index].1 = column := by simpa using named
    refine .inr ⟨row[index].2, (row.set index (row.getLast nonempty)).dropLast, ?_, ?_⟩
    · simp only [here, ends]
    · rw [← name]
      exact perm_moved here ends

/-- What is left of a row finds the same as the row, but for the column taken out. -/
theorem takeCell_record (column : String) (record : Record Value) :
    ∃ rest : Record Value, takeCell column record.entries = (record.get? column, rest.entries) ∧
      ∀ other, other ≠ column → rest.get? other = record.get? other := by
  rcases takeCell_cases column record.entries with ⟨taken, unknown⟩ | ⟨value, rest, taken, moved⟩
  · have missing : record.get? column = none := Record.get?_eq_none unknown
    exact ⟨record, by rw [taken, missing], fun _ _ => rfl⟩
  · have distinct : ((column, value) :: rest).map Prod.fst |>.Nodup :=
      ((moved.map Prod.fst).nodup_iff).1 record.distinct
    have found : record.get? column = some value :=
      Record.get?_eq_some_iff.2 (moved.mem_iff.2 List.mem_cons_self)
    refine ⟨⟨rest, (List.nodup_cons.1 distinct).2⟩, by rw [taken, found], fun other different => ?_⟩
    refine Option.ext fun stored => ?_
    rw [Record.get?_eq_some_iff, Record.get?_eq_some_iff, moved.mem_iff]
    simp [different]

/-- Taking the cells of distinct columns one after the other gives what the row has under
each. -/
theorem cellsOf_record {columns : List String} (distinct : columns.Nodup) (record : Record Value) :
    cellsOf columns record.entries = columns.map record.get? := by
  induction columns generalizing record with
  | nil => rfl
  | cons column others ih =>
    obtain ⟨fresh, distinct⟩ := List.nodup_cons.1 distinct
    obtain ⟨rest, taken, same⟩ := takeCell_record column record
    have left : cellsOf others rest.entries = others.map record.get? := by
      rw [ih distinct]
      exact List.map_congr_left fun other inside => same other fun equal => fresh (equal ▸ inside)
    rw [cellsOf, taken, List.map_cons]
    exact congrArg _ left

theorem rows_ofRows (insert : Insert) (rows : List (Record Value)) :
    (insert.ofRows (rows.map Record.entries)).rows =
      rows.map fun row => (columnsOf (rows.map Record.entries)).map row.get? := by
  have matrix : (insert.ofRows (rows.map Record.entries)).rows =
      (rows.map Record.entries).map (cellsOf (columnsOf (rows.map Record.entries))) := rfl
  rw [matrix, List.map_map]
  exact List.map_congr_left fun row _ => cellsOf_record (nodup_columnsOf _) row

/-- The cells under columns that have one, each with its column. -/
def present (columns : List String) (cells : List (Option Value)) : List (String × Value) :=
  (columns.zip cells).filterMap fun (column, cell) => cell.map fun value => (column, value)

/-- Spread over distinct columns that include its own, a row has the same cells. -/
theorem perm_present {columns : List String} (distinct : columns.Nodup) {row : Record Value}
    (covered : ∀ column ∈ row.keys, column ∈ columns) :
    (present columns (columns.map row.get?)).Perm row.entries := by
  have paired : columns.zip (columns.map row.get?) = columns.map fun column => (column, row.get? column) := by
    have both : (columns.map id).zip (columns.map row.get?) = _ := List.zip_map'
    simpa using both
  have spread : present columns (columns.map row.get?) =
      columns.filterMap fun column => (row.get? column).map fun value => (column, value) := by
    rw [present, paired, List.filterMap_map]
    rfl
  have once : (present columns (columns.map row.get?)).Nodup := by
    rw [spread]
    refine distinct.filterMap fun column other cell here there => ?_
    obtain ⟨_, _, rfl⟩ := Option.map_eq_some_iff.1 here
    obtain ⟨_, _, same⟩ := Option.map_eq_some_iff.1 there
    exact (congrArg Prod.fst same).symm
  refine (List.perm_ext_iff_of_nodup once (List.Nodup.of_map _ row.distinct)).2 fun ⟨column, value⟩ => ?_
  have found : row.get? column = some value ↔ (column, value) ∈ row.entries := Record.get?_eq_some_iff
  rw [spread, List.mem_filterMap, ← found]
  constructor
  · rintro ⟨other, _, cell⟩
    obtain ⟨stored, here, same⟩ := Option.map_eq_some_iff.1 cell
    cases same
    exact here
  · intro here
    have known : column ∈ row.keys := List.mem_map_of_mem (found.1 here)
    exact ⟨column, covered column known, by rw [here]; rfl⟩

end Sql.Insert

/-- The rows of an insert, as its columns and its matrix have them. Every column of a row
is there once, in the order in which the columns first come; every row is a line of the
matrix with a cell for each column, in which the cell under a column is what the row has
there, and nothing if it has nothing there. So a line has the cells of its row, and no
other. -/
theorem insert_matrix_holds_rows (insert : Insert) (rows : List (Record Value)) :
    let filled := insert.ofRows (rows.map Record.entries)
    filled.columns = (rows.flatMap Record.keys).eraseDups ∧ filled.columns.Nodup ∧
    filled.rows.length = rows.length ∧
    ∀ (i : Nat) row, rows[i]? = some row → ∃ cells, filled.rows[i]? = some cells ∧
      cells.length = filled.columns.length ∧
      (∀ (j : Nat) column, filled.columns[j]? = some column → ∃ cell, cells[j]? = some cell ∧
        (∀ value, cell = some value ↔ (column, value) ∈ row.entries) ∧
        (cell = none ↔ column ∉ row.keys)) ∧
      (Insert.present filled.columns cells).Perm row.entries := by
  have columns := Insert.columnsOf_entries rows
  refine ⟨columns, Insert.nodup_columnsOf _, by simp [Insert.rows_ofRows], fun i row here => ?_⟩
  rw [Insert.rows_ofRows]
  refine ⟨(Insert.columnsOf (rows.map Record.entries)).map row.get?, by simp [here], by simp; rfl, ?_, ?_⟩
  · intro j column there
    refine ⟨row.get? column, ?_, fun value => Record.get?_eq_some_iff, ?_⟩
    · have at_j : (Insert.columnsOf (rows.map Record.entries))[j]? = some column := there
      simp [at_j]
    · exact Record.get?_eq_none_iff
  · refine Insert.perm_present (Insert.nodup_columnsOf _) fun column known => ?_
    rw [columns, List.mem_eraseDups, List.mem_flatMap]
    exact ⟨row, List.mem_of_getElem? here, known⟩

/-- Taking `a` out of the second row moves `c` in front of `d`. -/
example :
    let filled := (Insert.into ⟨"t", none, none⟩).ofRows [[("a", .int 1)],
      [("b", .int 2), ("a", .int 3), ("d", .null), ("c", .bool true)], []]
    filled.columns = ["a", "b", "d", "c"] ∧
      filled.rows = [[some (.int 1), none, none, none],
        [some (.int 3), some (.int 2), some .null, some (.bool true)], [none, none, none, none]] := by
  decide

end Polyquery
