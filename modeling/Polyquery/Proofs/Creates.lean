import Polyquery.Proofs.Lookup

/-! Creates, where rows are returned with the write and where they are read behind it.
The new row is found by its key, which the server reports or the body gives. -/
namespace Polyquery
open Sql

/-- One row of cells is one row given. -/
theorem given_insertOf (query : Query) (dialect : Dialect) (returning : Bool)
    (cells : List (String × Value)) :
    (query.insertOf dialect returning cells).given = [.ofList cells] := by
  have columns : (query.insertOf dialect returning cells).columns = cells.map Prod.fst := rfl
  have rows : (query.insertOf dialect returning cells).rows = [cells.map fun cell => some cell.2] := rfl
  rw [Insert.given, columns, rows]
  split
  · next none =>
    have empty : cells = [] := by simpa using none
    rw [empty]
    rfl
  · simp [List.zip_map', List.filterMap_map]

namespace Engine
variable {engine : Engine}

section
variable {query : Query} {dialect : Dialect} {contents after : engine.Contents}
  {cells : List (String × Value)}

/-- The row that a create adds. -/
def created (contents : engine.Contents) (cells : List (String × Value)) : Record Value :=
  engine.complete contents.rows (.ofList cells)

theorem has_target (hosts : engine.Hosts query) : engine.has query.target = true := by
  simp [has, Query.target, hosts.name, hosts.schema]

theorem rows_of_append {given : Record Value} (appended : append contents given = .ok after) :
    after.rows = contents.rows ++ [engine.complete contents.rows given] :=
  rows_of_accept appended

/-- An insert that is refused leaves the table as it is. -/
theorem serve_insert_error (hosts : engine.Hosts query) (dialect : Dialect) (returning : Bool)
    {error : Error} (failed : append contents (.ofList cells) = .error error) :
    serve dialect contents (.insert (query.insertOf dialect returning cells)) =
      (.error error, contents) := by
  have known : engine.has (query.insertOf dialect returning cells).table = true := has_target hosts
  have folded : [Record.ofList cells].foldlM append contents = .error error := by simp [failed]
  simp only [serve, known, ↓reduceIte, given_insertOf, folded]

/-- What the insert of a create does to the table. -/
theorem serve_insert (hosts : engine.Hosts query) (dialect : Dialect) (returning : Bool)
    (appended : append contents (.ofList cells) = .ok after) :
    serve dialect contents (.insert (query.insertOf dialect returning cells)) =
      (.ok (engine.inserted dialect (query.insertOf dialect returning cells) [created contents cells]),
        after) := by
  have known : engine.has (query.insertOf dialect returning cells).table = true := has_target hosts
  have folded : [Record.ofList cells].foldlM append contents = .ok after := by simp [appended]
  have added : after.rows.drop contents.rows.length = [created contents cells] := by
    rw [rows_of_append appended]
    simp [created]
  simp only [serve, known, ↓reduceIte, given_insertOf, folded, added]

/-- The key that a server reports is found in its answer. -/
theorem generatedKey?_inserted (query : Query) (dialect : Dialect) (cells : List (String × Value))
    (rows : List (Record Value)) :
    Query.generatedKey? dialect (engine.inserted dialect (query.insertOf dialect false cells) rows) =
      if dialect.generatedKey = .absent then none
      else (engine.report dialect rows).map fun n => Value.toJson (.int n) := by
  cases dialect with
  | postgres | oracle => rfl
  | mysql | mariadb =>
    simp [Query.generatedKey?, inserted, Dialect.generatedKey, Option.map_map, Function.comp_def]
  | sqlServer =>
    have answered : (engine.inserted .sqlServer (query.insertOf .sqlServer false cells) rows).rows =
        [.ofList [("id", (engine.report .sqlServer rows).elim .null fun n => Value.toJson (.int n))]] :=
      rfl
    rw [Query.generatedKey?]
    simp only [Dialect.generatedKey, answered]
    cases engine.report .sqlServer rows with
    | none => rfl
    | some n => rfl

/-- What a write hands back: its row, or why it failed. -/
def outcome (contents : engine.Contents) (attempt : Except Error engine.Contents)
    (row : Record Value) : Except Error Outcome × engine.Contents :=
  match attempt with
  | .error error => (.error error, contents)
  | .ok after => (.ok (.row (Projection.all.shown row)), after)

/-- The plan of a create, unless it has no cell where it needs one. -/
theorem planned_create (dialect : Dialect) (cap : Nat) (creates : query.operation = .create)
    (written : query.createdCells = .ok cells)
    (fits : (cells.isEmpty && !dialect.insertsDefaults) = false) :
    query.planned (.of dialect cap) =
      .ok (.create, .insert (query.insertOf dialect dialect.returnsRows cells)) := by
  have returning : (Compiler.of dialect cap).returning = dialect.returnsRows := Bool.and_true _
  have inserts : query.insert dialect dialect.returnsRows =
      .ok (query.insertOf dialect dialect.returnsRows cells) := by
    rw [Query.insert_eq, written]
    simp only [Except.bind, fits, Bool.false_eq_true, ↓reduceIte]
  rw [Query.planned, Query.plan, creates, returning]
  exact congrArg (fun insert => (insert.map Statement.insert).map (Operation.create, ·)) inserts

theorem execute_create_returning (hosts : engine.Hosts query) (creates : query.operation = .create)
    (written : query.createdCells = .ok cells)
    (fits : (cells.isEmpty && !dialect.insertsDefaults) = false)
    (returns : dialect.returnsRows = true) (cap : Nat) :
    execute dialect cap query contents =
      outcome contents (append contents (.ofList cells)) (created contents cells) := by
  have planned := planned_create dialect cap creates written fits
  rw [returns] at planned
  cases attempt : append contents (.ofList cells) with
  | error error =>
    exact execute_returning planned (.inl creates) returns
      (serve_insert_error hosts dialect true attempt)
  | ok after =>
    exact execute_returning planned (.inl creates) returns (serve_insert hosts dialect true attempt)

/-- The key of the row that a create adds is known: it is generated and reported, or
the body gives it. -/
def KeyKnown (dialect : Dialect) (query : Query) (contents : engine.Contents)
    (cells : List (String × Value)) : Prop :=
  (dialect.generatedKey ≠ .absent ∧ (engine.report dialect [created contents cells]).isSome = true) ∨
    ∃ json, query.bodyKey? engine.key = some json ∧ Value.ofJson json ≠ .null

/-- A key in the body is among the cells, as it is bound. -/
theorem cell_of_bodyKey {key : String} {json : Json} (written : query.createdCells = .ok cells)
    (found : query.bodyKey? key = some json) (bound : Value.ofJson json ≠ .null) :
    (Record.ofList cells).get? key = some (Value.ofJson json) := by
  unfold Query.bodyKey? at found
  unfold Query.createdCells at written
  split at found
  · next row body =>
    rw [body] at written
    cases written
    have distinct : ((Row.values row).map Prod.fst).Nodup := by
      simpa [Row.values, Function.comp_def] using row.distinct
    have kept : ((Row.values row).filter fun cell => !cell.2.isNull).map Prod.fst |>.Nodup :=
      distinct.sublist (List.filter_sublist.map _)
    have cell : (key, json) ∈ row.entries :=
      Record.get?_eq_some_iff.1 (Option.filter_eq_some_iff.1 found).1
    rw [Record.get?_eq_some_iff, Record.entries_ofList kept, List.mem_filter]
    refine ⟨List.mem_map.2 ⟨(key, json), cell, rfl⟩, ?_⟩
    cases normalized : Value.ofJson json <;> simp_all [Value.isNull]
  · cases found

/-- What finds the new row: the reported key, else the key in the body. -/
theorem key_found (written : query.createdCells = .ok cells)
    (known : KeyKnown dialect query contents cells)
    (keyed : (engine.keyOf? (created contents cells)).isSome = true) :
    ∃ json, ((Query.generatedKey? dialect
        (engine.inserted dialect (query.insertOf dialect false cells) [created contents cells])).orElse
          fun _ => query.bodyKey? engine.key) = some json ∧
      Value.ofJson json ≠ .null ∧
      engine.keyOf? (created contents cells) = some (engine.identity (Value.ofJson json)) := by
  obtain ⟨value, some⟩ := Option.isSome_iff_exists.1 keyed
  obtain ⟨cell, stored, present, rfl⟩ := keyOf?_eq_some.1 some
  rw [generatedKey?_inserted]
  -- A reported key comes before the one in the body. It need not be the cell that was
  -- stored, only to count as the same key.
  by_cases reports : dialect.generatedKey ≠ .absent ∧
      (engine.report dialect [created contents cells]).isSome = true
  · obtain ⟨generates, reported⟩ := reports
    obtain ⟨n, report⟩ := Option.isSome_iff_exists.1 reported
    obtain ⟨own, found, same⟩ := engine.report_key dialect _ n report
    cases stored.symm.trans found
    refine ⟨Value.toJson (.int n), by simp [generates, report], by simp, ?_⟩
    rw [some, same, Value.ofJson_toJson_int]
  · obtain ⟨json, found, bound⟩ := known.resolve_left reports
    have given := engine.complete_given contents.rows _ _ _ (cell_of_bodyKey written found bound)
    cases stored.symm.trans given
    refine ⟨json, ?_, bound, some⟩
    by_cases absent : dialect.generatedKey = .absent
    · simp [absent, found]
    · have unreported : engine.report dialect [created contents cells] = none := by
        simpa [absent] using reports
      simp [unreported, found]

theorem execute_create_silent (hosts : engine.Hosts query) (creates : query.operation = .create)
    (written : query.createdCells = .ok cells)
    (fits : (cells.isEmpty && !dialect.insertsDefaults) = false)
    (silent : dialect.returnsRows = false) (known : KeyKnown dialect query contents cells) (cap : Nat) :
    execute dialect cap query contents =
      outcome contents (append contents (.ofList cells)) (created contents cells) := by
  have planned := planned_create dialect cap creates written fits
  rw [silent] at planned
  cases attempt : append contents (.ofList cells) with
  | error error =>
    exact execute_failed planned (.inl creates) silent (serve_insert_error hosts dialect false attempt)
  | ok after =>
    have member : created contents cells ∈ after.rows := by
      rw [rows_of_append attempt]
      simp [created]
    obtain ⟨json, found, bound, keyed⟩ := key_found written known (after.keyed _ member)
    have identified : query.identity? dialect (engine.inserted dialect
        (query.insertOf dialect false cells) [created contents cells]) =
          some (Query.equalFilter engine.key json) := by
      obtain ⟨table, described, _, key⟩ := hosts.described
      simp only [Query.identity?, creates, ↓reduceIte, described, Option.bind_some, key, found]
      rfl
    have bare : (Query.equalFilter engine.key json).AreBare := by
      intro test only
      rw [List.mem_singleton.1 only]
      exact hosts.plainKey.2
    obtain ⟨lookup, looks, read⟩ := lookup_found hosts bare
      (selected_by_key hosts dialect member bound keyed) cap
    exact execute_readBack planned (.inl creates) silent
      (serve_insert hosts dialect false attempt) identified looks read

end

end Engine
end Polyquery
