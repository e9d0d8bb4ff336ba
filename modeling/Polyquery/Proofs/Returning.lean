import Polyquery.Proofs.Creates

/-! What a write hands back. A dialect that returns written rows does so with the
write itself; on the others the row is read through what identifies it, behind a
create or an update and in front of a delete. Both come to the same: one row is
written, and it is the row handed back. -/
namespace Polyquery
open Sql

/-! ## Updates and deletes -/

namespace Engine
variable {engine : Engine}

section
variable {query : Query} {dialect : Dialect} {contents after : engine.Contents}
  {cells : List (String × Value)} {row : Record Value}

/-- Two conditions that select the same rows hold for the same rows. -/
theorem agree_of_filter {rows : List (Record Value)} {p q : Record Value → Bool}
    (same : rows.filter p = rows.filter q) : ∀ row ∈ rows, p row = q row := by
  intro row member
  have both : row ∈ rows.filter p ↔ row ∈ rows.filter q := by rw [same]
  rw [List.mem_filter, List.mem_filter] at both
  rw [Bool.eq_iff_iff]
  exact ⟨fun left => (both.1 ⟨member, left⟩).2, fun right => (both.2 ⟨member, right⟩).2⟩

theorem change_congr {p q : Record Value → Bool} (same : ∀ row ∈ contents.rows, p row = q row)
    (f : Record Value → Record Value) : change contents p f = change contents q f := by
  unfold change
  congr 1
  exact List.map_congr_left fun row member => by rw [same row member]

theorem without_congr {p q : Record Value → Bool} (same : ∀ row ∈ contents.rows, p row = q row) :
    contents.without p = contents.without q :=
  Contents.ext (List.filter_congr fun row member => by rw [same row member])

/-- An update that is refused leaves the table as it is. -/
theorem serve_update_error (hosts : engine.Hosts query) (dialect : Dialect) (returning : Bool)
    {error : Error}
    (failed : change contents (engine.reaches query dialect) (assign cells) = .error error) :
    serve dialect contents (.update (query.updateOf dialect returning cells)) =
      (.error error, contents) := by
  have known : engine.has query.target = true := has_target hosts
  have own : (query.condition dialect .base .empty).isOf query.target.reference = true :=
    condition_isOf query dialect
  unfold reaches at failed
  simp only [serve, Query.updateOf, known, own, Bool.and_self, ↓reduceIte, failed]

/-- The update of one row. -/
theorem serve_update (hosts : engine.Hosts query) (dialect : Dialect) (returning : Bool)
    (selects : engine.selected query dialect contents.rows = [row])
    (changed : change contents (engine.reaches query dialect) (assign cells) = .ok after) :
    serve dialect contents (.update (query.updateOf dialect returning cells)) =
      (.ok (affected (if returning then some .all else none) [assign cells row]), after) := by
  have known : engine.has query.target = true := has_target hosts
  have own : (query.condition dialect .base .empty).isOf query.target.reference = true :=
    condition_isOf query dialect
  unfold reaches at changed
  unfold selected reaches at selects
  simp only [serve, Query.updateOf, known, own, Bool.and_self, ↓reduceIte, changed, selects, List.map]

/-- The plan of an update, if there is something to write. -/
theorem planned_update (dialect : Dialect) (cap : Nat) (updates : query.operation = .update) :
    query.planned (.of dialect cap) = query.assignedCells.map fun cells =>
      (.update, .update (query.updateOf dialect dialect.returnsRows cells)) := by
  have returning : (Compiler.of dialect cap).returning = dialect.returnsRows := Bool.and_true _
  have built : query.update dialect dialect.returnsRows =
      query.assignedCells.map (query.updateOf dialect dialect.returnsRows) := Query.update_eq _ _ _
  rw [Query.planned, Query.plan, updates, returning]
  simp only [Compiler.of, built]
  cases query.assignedCells <;> rfl

theorem execute_update_returning (hosts : engine.Hosts query) (updates : query.operation = .update)
    (written : query.assignedCells = .ok cells) (returns : dialect.returnsRows = true)
    (selects : engine.selected query dialect contents.rows = [row]) (cap : Nat) :
    execute dialect cap query contents =
      outcome contents (change contents (engine.reaches query dialect) (assign cells))
        (assign cells row) := by
  have planned := planned_update dialect cap updates
  rw [written, returns] at planned
  cases attempt : change contents (engine.reaches query dialect) (assign cells) with
  | error error =>
    exact execute_returning planned (.inr (.inl updates)) returns
      (serve_update_error hosts dialect true attempt)
  | ok after =>
    exact execute_returning planned (.inr (.inl updates)) returns
      (serve_update hosts dialect true selects attempt)

theorem execute_update_silent (hosts : engine.Hosts query) (updates : query.operation = .update)
    (written : query.assignedCells = .ok cells) (silent : dialect.returnsRows = false)
    (selects : engine.selected query dialect contents.rows = [row]) {filter : Filters Json}
    (identified : query.idFilter? = some filter) (bare : filter.AreBare)
    (found : ∀ after, change contents (engine.reaches query dialect) (assign cells) = .ok after →
      engine.selected (query.lookup filter) dialect after.rows = [assign cells row]) (cap : Nat) :
    execute dialect cap query contents =
      outcome contents (change contents (engine.reaches query dialect) (assign cells))
        (assign cells row) := by
  have planned := planned_update dialect cap updates
  rw [written, silent] at planned
  cases attempt : change contents (engine.reaches query dialect) (assign cells) with
  | error error =>
    exact execute_failed planned (.inr updates) silent (serve_update_error hosts dialect false attempt)
  | ok after =>
    obtain ⟨lookup, looks, read⟩ := lookup_found hosts bare (found after attempt) cap
    have byFilter (response : Response) : query.identity? dialect response = some filter := by
      simp only [Query.identity?, updates, reduceCtorEq, ↓reduceIte, identified]
      rfl
    exact execute_readBack planned (.inr updates) silent
      (serve_update hosts dialect false selects attempt) (byFilter _) looks read

theorem projection_all (hosts : engine.Hosts query) (dialect : Dialect) :
    query.projection dialect = .all := by
  rw [Query.projection, hosts.wholeRows]

/-- The delete of one row. -/
theorem serve_delete (hosts : engine.Hosts query) (dialect : Dialect) (returning : Bool)
    (selects : engine.selected query dialect contents.rows = [row]) :
    serve dialect contents (.delete (query.delete dialect returning)) =
      (.ok (affected (if returning then some .all else none) [row]),
        contents.without (engine.reaches query dialect)) := by
  have known : engine.has query.target = true := has_target hosts
  have own : (query.condition dialect .base .empty).isOf query.target.reference = true :=
    condition_isOf query dialect
  unfold selected reaches at selects
  have delete : query.delete dialect returning =
      ⟨query.target, query.condition dialect .base .empty, if returning then some .all else none⟩ := by
    rw [Query.delete, projection_all hosts]
    rfl
  simp only [serve, delete, known, own, Bool.and_self, ↓reduceIte, selects]
  rfl

theorem planned_delete (dialect : Dialect) (cap : Nat) (deletes : query.operation = .delete) :
    query.planned (.of dialect cap) =
      .ok (.delete, .delete (query.delete dialect dialect.returnsRows)) := by
  have returning : (Compiler.of dialect cap).returning = dialect.returnsRows := Bool.and_true _
  rw [Query.planned, Query.plan, deletes, returning]
  rfl

theorem execute_delete_returning (hosts : engine.Hosts query) (deletes : query.operation = .delete)
    (returns : dialect.returnsRows = true)
    (selects : engine.selected query dialect contents.rows = [row]) (cap : Nat) :
    execute dialect cap query contents =
      outcome contents (.ok (contents.without (engine.reaches query dialect))) row := by
  have planned := planned_delete dialect cap deletes
  rw [returns] at planned
  exact execute_returning planned (.inr (.inr deletes)) returns
    (serve_delete hosts dialect true selects)

theorem execute_delete_silent (hosts : engine.Hosts query) (deletes : query.operation = .delete)
    (silent : dialect.returnsRows = false)
    (selects : engine.selected query dialect contents.rows = [row]) {filter : Filters Json}
    (identified : query.idFilter? = some filter) (bare : filter.AreBare)
    (found : engine.selected (query.lookup filter) dialect contents.rows = [row]) (cap : Nat) :
    execute dialect cap query contents =
      outcome contents (.ok (contents.without (engine.reaches query dialect))) row := by
  have planned := planned_delete dialect cap deletes
  rw [silent] at planned
  obtain ⟨lookup, looks, read⟩ := lookup_found hosts bare found cap
  exact execute_readBefore planned deletes silent identified looks read
    (serve_delete hosts dialect false selects)

/-! ## One write, one row -/

/-- The one row that an update or a delete is about, the same on the dialect as where
rows are returned, and the filter that the query brings along to find it. -/
structure PointsTo (dialect : Dialect) (query : Query) (contents : engine.Contents)
    (filter : Filters Json) (row : Record Value) : Prop where
  identified : query.idFilter? = some filter
  bare : filter.AreBare
  returning : engine.selected query .postgres contents.rows = [row]
  selects : engine.selected query dialect contents.rows = [row]

/-- What identifies the row of a write. A create has its key. An update or a delete
points to one row, which its filter selects: in front of a delete, behind an update. -/
inductive Identifies (dialect : Dialect) (query : Query) (contents : engine.Contents) : Prop where
  | created (creates : query.operation = .create)
    (known : ∀ cells, query.createdCells = .ok cells → KeyKnown dialect query contents cells)
  | updated (updates : query.operation = .update) {filter : Filters Json} {row : Record Value}
    (pointed : PointsTo dialect query contents filter row)
    (stays : ∀ cells after, query.assignedCells = .ok cells →
      change contents (engine.reaches query dialect) (assign cells) = .ok after →
      engine.selected (query.lookup filter) dialect after.rows = [assign cells row])
  | deleted (deletes : query.operation = .delete) {filter : Filters Json} {row : Record Value}
    (pointed : PointsTo dialect query contents filter row)
    (found : engine.selected (query.lookup filter) dialect contents.rows = [row])

/-- What a write comes to. Without a plan, or if the server refuses it, it fails and
nothing is changed; else it is about one row and hands back this row, a changed one
as it is now. -/
inductive Affects (dialect : Dialect) (cap : Nat) (query : Query) (contents : engine.Contents) :
    Except Error Outcome → engine.Contents → Prop where
  | unplanned {error : Error} (fails : query.planned (.of dialect cap) = .error error) :
    Affects dialect cap query contents (.error error) contents
  | refused {error : Error} {write : Operation × Statement}
    (planned : query.planned (.of dialect cap) = .ok write)
    (refuses : servePlanned dialect contents write = (.error error, contents)) :
    Affects dialect cap query contents (.error error) contents
  | created {after : engine.Contents} {cells : List (String × Value)}
    (creates : query.operation = .create) (written : query.createdCells = .ok cells)
    (added : after.rows = contents.rows ++ [created contents cells]) :
    Affects dialect cap query contents
      (.ok (.row (Projection.all.shown (created contents cells)))) after
  | updated {after : engine.Contents} {front back : List (Record Value)} {row : Record Value}
    {cells : List (String × Value)} (updates : query.operation = .update)
    (written : query.assignedCells = .ok cells) (there : contents.rows = front ++ row :: back)
    (changed : after.rows = front ++ assign cells row :: back) :
    Affects dialect cap query contents (.ok (.row (Projection.all.shown (assign cells row)))) after
  | deleted {after : engine.Contents} {front back : List (Record Value)} {row : Record Value}
    (deletes : query.operation = .delete) (there : contents.rows = front ++ row :: back)
    (gone : after.rows = front ++ back) :
    Affects dialect cap query contents (.ok (.row (Projection.all.shown row))) after

/-- A row that a create can be identified by has a cell where the dialect needs one. -/
theorem fits_of_keyKnown (written : query.createdCells = .ok cells)
    (known : KeyKnown dialect query contents cells) :
    (cells.isEmpty && !dialect.insertsDefaults) = false := by
  rcases known with ⟨generates, _⟩ | ⟨json, found, bound⟩
  · cases dialect <;> simp_all [Dialect.generatedKey, Dialect.insertsDefaults]
  · have cell := cell_of_bodyKey written found bound
    cases cells with
    | nil => cases cell
    | cons first rest => rfl

theorem unplanned_create (dialect : Dialect) (cap : Nat) (creates : query.operation = .create)
    {error : Error} (fails : query.createdCells = .error error) :
    query.planned (.of dialect cap) = .error error := by
  rw [Query.planned, Query.plan, creates]
  simp only [Query.insert_eq, fails]
  rfl

/-- A create comes to the same on a dialect as where rows are returned. -/
theorem create_hands_back (hosts : engine.Hosts query) (creates : query.operation = .create)
    (known : ∀ cells, query.createdCells = .ok cells → KeyKnown dialect query contents cells)
    (cap : Nat) :
    ∃ result after, execute .postgres cap query contents = (result, after) ∧
      execute dialect cap query contents = (result, after) ∧
      Affects dialect cap query contents result after := by
  have operates : query.isTableOperation = false := by simp [Query.isTableOperation, creates]
  cases written : query.createdCells with
  | error error =>
    have unplanned := unplanned_create dialect cap creates written
    exact ⟨_, _, execute_unplanned (unplanned_create .postgres cap creates written) operates,
      execute_unplanned unplanned operates, .unplanned unplanned⟩
  | ok cells =>
    have fits := fits_of_keyKnown written (known cells written)
    have returned : execute .postgres cap query contents =
        outcome contents (append contents (.ofList cells)) (created contents cells) :=
      execute_create_returning hosts creates written (Bool.and_false _) rfl cap
    have same : execute dialect cap query contents =
        outcome contents (append contents (.ofList cells)) (created contents cells) := by
      cases returns : dialect.returnsRows with
      | true => exact execute_create_returning hosts creates written fits returns cap
      | false =>
        exact execute_create_silent hosts creates written fits returns (known cells written) cap
    refine ⟨_, _, returned, same, ?_⟩
    cases attempt : append contents (.ofList cells) with
    | error error =>
      exact .refused (planned_create dialect cap creates written fits)
        (serve_insert_error hosts dialect _ attempt)
    | ok after => exact .created creates written (rows_of_append attempt)

/-- One row among rows that a condition leaves alone. -/
theorem split_of_filter {rows : List (Record Value)} {p : Record Value → Bool}
    (only : rows.filter p = [row]) :
    ∃ front back, rows = front ++ row :: back ∧ p row = true ∧
      ∀ other, other ∈ front ∨ other ∈ back → p other = false := by
  obtain ⟨front, back, rfl, before, holds, behind⟩ := List.filter_eq_cons_iff.1 only
  refine ⟨front, back, rfl, holds, fun other inside => ?_⟩
  rw [List.filter_eq_nil_iff] at behind
  exact Bool.eq_false_iff.2 (inside.elim (before other) (behind other))

/-- A change of one row among others. -/
theorem map_single {front back : List (Record Value)} {p : Record Value → Bool}
    (holds : p row = true) (others : ∀ other, other ∈ front ∨ other ∈ back → p other = false)
    (f : Record Value → Record Value) :
    ((front ++ row :: back).map fun row => if p row then f row else row) = front ++ f row :: back := by
  have same (rows : List (Record Value)) (none : ∀ other ∈ rows, p other = false) :
      (rows.map fun row => if p row then f row else row) = rows := by
    conv => rhs; rw [← List.map_id rows]
    exact List.map_congr_left fun other inside => by simp [none other inside]
  rw [List.map_append, List.map_cons, same front fun other inside => others other (.inl inside),
    same back fun other inside => others other (.inr inside), holds]
  rfl

/-- The other rows stay. -/
theorem filter_single {front back : List (Record Value)} {p : Record Value → Bool}
    (holds : p row = true) (others : ∀ other, other ∈ front ∨ other ∈ back → p other = false) :
    ((front ++ row :: back).filter fun row => !p row) = front ++ back := by
  have same (rows : List (Record Value)) (none : ∀ other ∈ rows, p other = false) :
      (rows.filter fun row => !p row) = rows :=
    List.filter_eq_self.2 fun other inside => by simp [none other inside]
  rw [List.filter_append, List.filter_cons, same front fun other inside => others other (.inl inside),
    same back fun other inside => others other (.inr inside), holds]
  rfl

theorem update_hands_back (hosts : engine.Hosts query) (updates : query.operation = .update)
    {filter : Filters Json} (pointed : PointsTo dialect query contents filter row)
    (stays : ∀ cells after, query.assignedCells = .ok cells →
      change contents (engine.reaches query dialect) (assign cells) = .ok after →
      engine.selected (query.lookup filter) dialect after.rows = [assign cells row]) (cap : Nat) :
    ∃ result after, execute .postgres cap query contents = (result, after) ∧
      execute dialect cap query contents = (result, after) ∧
      Affects dialect cap query contents result after := by
  have operates : query.isTableOperation = false := by simp [Query.isTableOperation, updates]
  cases written : query.assignedCells with
  | error error =>
    have unplanned (dialect : Dialect) : query.planned (.of dialect cap) = .error error := by
      rw [planned_update dialect cap updates, written]
      rfl
    exact ⟨_, _, execute_unplanned (unplanned .postgres) operates,
      execute_unplanned (unplanned dialect) operates, .unplanned (unplanned dialect)⟩
  | ok cells =>
    -- The dialects may judge a row differently, but not one of these rows.
    have agree := change_congr (agree_of_filter (pointed.selects.trans pointed.returning.symm))
      (assign cells)
    have returned : execute .postgres cap query contents =
        outcome contents (change contents (engine.reaches query dialect) (assign cells))
          (assign cells row) := by
      rw [agree]
      exact execute_update_returning hosts updates written rfl pointed.returning cap
    have same : execute dialect cap query contents =
        outcome contents (change contents (engine.reaches query dialect) (assign cells))
          (assign cells row) := by
      cases returns : dialect.returnsRows with
      | true => exact execute_update_returning hosts updates written returns pointed.selects cap
      | false =>
        exact execute_update_silent hosts updates written returns pointed.selects pointed.identified
          pointed.bare (fun after changed => stays cells after written changed) cap
    refine ⟨_, _, returned, same, ?_⟩
    cases attempt : change contents (engine.reaches query dialect) (assign cells) with
    | error error =>
      have planned := planned_update dialect cap updates
      rw [written] at planned
      exact .refused planned (serve_update_error hosts dialect _ attempt)
    | ok after =>
      obtain ⟨front, back, there, holds, others⟩ := split_of_filter pointed.selects
      refine .updated updates written there ?_
      rw [rows_of_accept attempt, there]
      exact map_single holds others _

theorem delete_hands_back (hosts : engine.Hosts query) (deletes : query.operation = .delete)
    {filter : Filters Json} (pointed : PointsTo dialect query contents filter row)
    (found : engine.selected (query.lookup filter) dialect contents.rows = [row]) (cap : Nat) :
    ∃ result after, execute .postgres cap query contents = (result, after) ∧
      execute dialect cap query contents = (result, after) ∧
      Affects dialect cap query contents result after := by
  have agree := without_congr (agree_of_filter (pointed.selects.trans pointed.returning.symm))
  have returned : execute .postgres cap query contents =
      outcome contents (.ok (contents.without (engine.reaches query dialect))) row := by
    rw [agree]
    exact execute_delete_returning hosts deletes rfl pointed.returning cap
  have same : execute dialect cap query contents =
      outcome contents (.ok (contents.without (engine.reaches query dialect))) row := by
    cases returns : dialect.returnsRows with
    | true => exact execute_delete_returning hosts deletes returns pointed.selects cap
    | false =>
      exact execute_delete_silent hosts deletes returns pointed.selects pointed.identified pointed.bare
        found cap
  obtain ⟨front, back, there, holds, others⟩ := split_of_filter pointed.selects
  refine ⟨_, _, returned, same, .deleted deletes there ?_⟩
  change contents.rows.filter _ = _
  rw [there]
  exact filter_single holds others

end

/-- A write hands back its row, on every dialect the same. Whether the row comes
with the write or is read through what identifies it, a create, an update or a
delete has one result and leaves one table behind. With the answers of the server
the conversation of the query sends the texts of the planned statements, and has
that result. -/
theorem write_hands_back_its_row {engine : Engine} {query : Query} {dialect : Dialect}
    {contents : engine.Contents} (hosts : engine.Hosts query)
    (identified : Identifies dialect query contents) (cap : Nat) :
    ∃ result after, execute .postgres cap query contents = (result, after) ∧
      execute dialect cap query contents = (result, after) ∧
      Affects dialect cap query contents result after ∧
      (query.conversation dialect cap id).hold ((asked dialect cap query contents).map Turn.answer) =
        ((asked dialect cap query contents).map (sent dialect cap), result) := by
  have handed : ∃ result after, execute .postgres cap query contents = (result, after) ∧
      execute dialect cap query contents = (result, after) ∧
      Affects dialect cap query contents result after := by
    cases identified with
    | created creates known => exact create_hands_back hosts creates known cap
    | updated updates pointed stays => exact update_hands_back hosts updates pointed stays cap
    | deleted deletes pointed found => exact delete_hands_back hosts deletes pointed found cap
  obtain ⟨result, after, returned, same, affects⟩ := handed
  refine ⟨result, after, returned, same, affects, ?_⟩
  rw [hold_conversation, same]

/-! ## Persons -/

/-- The equality of a cell and a value; null is equal to nothing. -/
def equality : Option Value → Value → Truth
  | some cell, value =>
    if cell = .null ∨ value = .null then .unknown else if cell = value then .yes else .no
  | none, _ => .unknown

theorem equality_yes {stored : Option Value} {value : Value} (bound : value ≠ .null) :
    equality stored value = .yes ↔ ∃ cell, stored = some cell ∧ cell ≠ .null ∧ cell = value := by
  cases stored with
  | none => simp [equality]
  | some cell =>
    by_cases present : cell = .null <;> by_cases same : cell = value <;> simp_all [equality]

/-- The number that a row has as its key. -/
def number? (row : Record Value) : Option Int64 :=
  (row.get? "id").bind fun
    | .int n => some n
    | _ => none

theorem get?_of_number? {row : Record Value} {n : Int64} (numbered : number? row = some n) :
    row.get? "id" = some (.int n) := by
  obtain ⟨cell, stored, same⟩ := Option.bind_eq_some_iff.1 numbered
  cases cell <;> cases same
  exact stored

/-- A table of persons, who are numbered as they come. -/
def persons : Engine where
  name := "persons"
  schema := none
  key := "id"
  identity := id
  judge _ row
    | .compare column .equal value => equality (row.get? column.column) value
    | _ => .unknown
  precedes
    | .int a, .int b => a < b
    | _, _ => false
  complete rows given :=
    if (given.get? "id").isSome then given
    else given.insert "id" (.int (.ofNat (rows.length + 1)))
  report _ rows := rows.head?.bind number?
  refusal := "this person is there"
  judge_key _ _ _ _ := equality_yes
  complete_given rows given column cell found := by
    split
    · exact found
    · next new => exact Record.get?_insert_of_new (by simpa using new) found
  report_key _ _ _ numbered := ⟨_, get?_of_number? numbered, rfl⟩

def people : persons.Contents :=
  ⟨[.ofList [("id", .int 1), ("name", .string "Ada")],
    .ofList [("id", .int 2), ("name", .string "Grace")]], by decide, by decide⟩

/-- A write to the table of persons; an update or a delete of the one named Grace,
whose number is known. -/
def writePerson (operation : Operation) (cells : List (String × Json)) : Query :=
  { Query.plain "persons" operation with
    details := some ⟨some ⟨"persons", ["id"], .empty⟩⟩
    filters := some ⟨false, [⟨"name", .equal (.string "Grace")⟩]⟩
    extra := some ⟨some ⟨false, [⟨"1:id", .equal (.number (.ofInt64 2))⟩]⟩⟩
    body := some (.row (.ofList cells)) }

theorem hosts_writePerson (operation : Operation) (cells : List (String × Json)) :
    persons.Hosts (writePerson operation cells) :=
  ⟨rfl, rfl, ⟨_, rfl, rfl, rfl⟩, ⟨by decide, by decide⟩, rfl⟩

def numberedPerson : Query := writePerson .create [("name", .string "Barbara")]

def givenPerson : Query :=
  writePerson .create [("id", .number (.ofInt64 7)), ("name", .string "Barbara")]

def renamedPerson : Query := writePerson .update [("name", .string "Grace H.")]

def removedPerson : Query := writePerson .delete []

theorem numberedPerson_identified : Identifies .sqlServer numberedPerson people := by
  refine .created rfl fun cells written => .inl ⟨by decide, ?_⟩
  cases written
  rfl

theorem givenPerson_identified : Identifies .oracle givenPerson people :=
  .created rfl fun _ _ => .inr ⟨.number (.ofInt64 7), rfl, by decide⟩

theorem renamedPerson_identified : Identifies .mysql renamedPerson people := by
  refine .updated rfl ⟨rfl, by decide, rfl, rfl⟩ ?_
  intro cells after written changed
  cases written
  rw [rows_of_accept changed]
  rfl

theorem removedPerson_identified : Identifies .mariadb removedPerson people :=
  .deleted rfl ⟨rfl, by decide, rfl, rfl⟩ rfl

theorem persons_are_handed_back :
    (execute .sqlServer 10 numberedPerson people).1 =
      .ok (.row (.ofList [("name", .string "Barbara"), ("id", .number (.ofInt64 3))])) ∧
    (execute .oracle 10 givenPerson people).1 =
      .ok (.row (.ofList [("id", .number (.ofInt64 7)), ("name", .string "Barbara")])) ∧
    (execute .mysql 10 renamedPerson people).1 =
      .ok (.row (.ofList [("id", .number (.ofInt64 2)), ("name", .string "Grace H.")])) ∧
    (execute .mariadb 10 removedPerson people).1 =
      .ok (.row (.ofList [("id", .number (.ofInt64 2)), ("name", .string "Grace")])) := by
  have alike {operation : Operation} {cells : List (String × Json)} {dialect : Dialect}
      (identified : Identifies dialect (writePerson operation cells) people) :
      execute dialect 10 (writePerson operation cells) people =
        execute .postgres 10 (writePerson operation cells) people := by
    obtain ⟨result, after, returned, same, _⟩ :=
      write_hands_back_its_row (hosts_writePerson operation cells) identified 10
    rw [same, returned]
  exact ⟨congrArg Prod.fst (alike numberedPerson_identified),
    congrArg Prod.fst (alike givenPerson_identified),
    congrArg Prod.fst (alike renamedPerson_identified),
    congrArg Prod.fst (alike removedPerson_identified)⟩

end Engine
end Polyquery
