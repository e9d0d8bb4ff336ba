import Polyquery.Proofs.ReadBack
import Polyquery.Proofs.Timestamps

/-! The keys that created rows are read back with. A key that is bound as null finds no row
that was just written, so such a key should count as none. Where the row comes from SQL
Server or from the body, null itself is passed over. But a driver's null is taken for a
key, and so is every text that stands for an open bound, since it is bound as null only
behind this choice. -/
namespace Polyquery
open Sql

/-! ## Values bound as null -/

/-- The texts that stand for an open bound, in place of a date. -/
def IsOpenBound (text : String) : Prop := text = openLow ∨ text = openHigh

namespace Calendar
open Text

/-- No month is printed as two zeros. -/
theorem padded_month_ne {n : Nat} (real : 1 ≤ n ∧ n ≤ 12) : padded 2 n ≠ ['0', '0'] := by
  have months : ∀ month < 13, 1 ≤ month → padded 2 month ≠ ['0', '0'] := by decide
  exact months n (by omega) real.1

/-- A date is not printed as four digits in front of the month zero. -/
theorem Date.print_ne (date : Date) {y1 y2 y3 y4 : Char} {rest behind : List Char}
    (unsigned : y1 ≠ '-' ∧ y1 ≠ '+') :
    date.print ++ behind ≠ [y1, y2, y3, y4, '-', '0', '0'] ++ rest := by
  intro same
  simp only [Date.print, Date.yearChars] at same
  split at same
  · next within =>
    rw [Bool.and_eq_true, decide_eq_true_eq, decide_eq_true_eq] at within
    have short {n width : Nat} := Nat.length_toDigits_le_iff (b := 10) (n := n) (k := width) (by decide)
    have four : (padded 4 date.year.toNat).length = 4 := by
      apply length_padded
      exact (short (by decide)).2 (by omega)
    have two : (padded 2 date.month).length = 2 := by
      apply length_padded
      exact (short (by decide)).2 (by have := date.month_real; omega)
    have shape : padded 4 date.year.toNat ++
        ('-' :: (padded 2 date.month ++ ('-' :: padded 2 date.day ++ behind))) =
        [y1, y2, y3, y4] ++ ('-' :: (['0', '0'] ++ rest)) := by simpa using same
    have month := (List.cons.inj (List.append_inj shape four).2).2
    exact padded_month_ne date.month_real (List.append_inj month two).1
  · have sign := (List.cons.inj same).1
    split at sign
    · exact unsigned.1 sign.symm
    · exact unsigned.2 sign.symm

/-- The print of an instant is no text for an open bound. -/
theorem Instant.iso_closed (t : Instant) : ¬ IsOpenBound t.iso := by
  have printed (text : String) (same : t.iso = text) : t.date.print ++
      ('T' :: t.clock.printSeconds ++ t.clock.millis ++ ['Z']) = text.toList := by
    rw [← same, Instant.iso, String.toList_ofList]
    simp
  rintro (low | high)
  · exact t.date.print_ne (by decide) (printed _ low)
  · exact t.date.print_ne (by decide) (printed _ high)

end Calendar

namespace Value

theorem ofText_eq_null {text : String} : ofText text = .null ↔ IsOpenBound text := by
  unfold ofText IsOpenBound
  split
  · next opens => simp [opens]
  · next closed =>
    refine iff_of_false ?_ closed
    cases Calendar.Instant.readIso? text <;> simp

/-- What is bound as null: null itself and the texts for an open bound. -/
theorem ofJson_eq_null {json : Json} :
    ofJson json = .null ↔ json = .null ∨ ∃ text, json = .string text ∧ IsOpenBound text := by
  cases json with
  | null => simp [ofJson]
  | bool b => simp [ofJson]
  | number n =>
    refine iff_of_false ?_ (by simp)
    cases n with
    | int n inRange =>
      simp only [ofJson, ofNumber]
      split <;> simp
    | float x finite => simp [ofJson, ofNumber]
  | string text => simp [ofJson, ofText_eq_null]
  | array items => simp [ofJson]
  | object members => simp [ofJson]

/-- The values that are lost on the way through JSON: they come back as null. -/
inductive Fades : Value → Prop where
  | null : Fades .null
  | beyond {x : Decimal.Double} (infinite : x.isFinite = false) : Fades (.float x)
  | placeholder {text : String} (opens : IsOpenBound text) : Fades (.string text)

theorem fades_iff {value : Value} : value.Fades ↔ ofJson value.toJson = .null := by
  rw [ofJson_eq_null]
  constructor
  · rintro (_ | infinite | opens)
    · exact .inl rfl
    · exact .inl (by simp [toJson, Json.ofDouble, infinite])
    · exact .inr ⟨_, rfl, opens⟩
  · intro bound
    cases value with
    | null => exact .null
    | bool b => simp [toJson] at bound
    | int n => simp [toJson] at bound
    | float x =>
      cases finite : x.isFinite with
      | false => exact .beyond finite
      | true => simp [toJson, Json.ofDouble, finite] at bound
    | string text => exact .placeholder (by simpa [toJson] using bound)
    | instant t =>
      have opens : IsOpenBound t.iso := by simpa [toJson] using bound
      exact absurd opens t.iso_closed

end Value

/-! ## Keys on offer -/

/-- A value is bound by this JSON, and not null. -/
def Json.binds (json : Json) : Bool := !(Value.ofJson json).isNull

/-- What a select asks, of the rows inside and of its own. -/
def Sql.Select.asked : Select → List Predicate
  | .table _ clauses => clauses.condition.parts
  | .derived inner _ clauses => inner.asked ++ clauses.condition.parts

namespace Query

/-- What the source of a dialect has for the key of a created row, null or not. -/
def reportedKey? (dialect : Dialect) (response : Response) : Option Json :=
  match dialect.generatedKey with
  | .reported => response.lastKey.map Value.toJson
  | .selected => response.rows.head?.bind fun row => row.get? "id"
  | .absent => none

/-- What a body has for the key of its row, null or not. -/
def writtenKey? (query : Query) (key : String) : Option Json :=
  match query.body with
  | some (.row row) => row.get? key
  | _ => none

/-- The first key on offer that binds a value: the reported one or else the one in the body. -/
def boundKey? (query : Query) (dialect : Dialect) (response : Response) (key : String) : Option Json :=
  ((reportedKey? dialect response).filter Json.binds).or ((query.writtenKey? key).filter Json.binds)

/-- What a created row is identified with if only keys count that bind a value: the first
such key, otherwise the filter that the query brings along. -/
def boundIdentity? (query : Query) (dialect : Dialect) (response : Response) : Option (Filters Json) :=
  ((query.table?.bind Table.key?).bind fun key =>
    (query.boundKey? dialect response key).map (equalFilter key)).or query.idFilter?

/-- The keys that are taken for a created row although they are bound as null. -/
inductive TakesNull (query : Query) (dialect : Dialect) (response : Response) (key : String) :
    Json → Prop where
  /-- The driver reports a value that fades. -/
  | driver {value : Value} (driver : dialect = .mysql ∨ dialect = .mariadb)
    (last : response.lastKey = some value) (fades : value.Fades) :
    TakesNull query dialect response key value.toJson
  /-- SQL Server selects the text of an open bound. -/
  | selected {text : String} (selects : dialect = .sqlServer)
    (cell : reportedKey? dialect response = some (.string text)) (opens : IsOpenBound text) :
    TakesNull query dialect response key (.string text)
  /-- Nothing is reported, and the body has the text of an open bound. -/
  | body {text : String} (unreported : ∀ id, ¬ Reports dialect response id)
    (cell : query.writtenKey? key = some (.string text)) (opens : IsOpenBound text) :
    TakesNull query dialect response key (.string text)

section
variable {query : Query} {dialect : Dialect} {response : Response} {key : String} {id : Json}

theorem binds_iff : id.binds = true ↔ Value.ofJson id ≠ .null := by
  unfold Json.binds
  cases Value.ofJson id <;> simp [Value.isNull]

theorem binds_of_boundKey? (offered : query.boundKey? dialect response key = some id) :
    Value.ofJson id ≠ .null := by
  rw [boundKey?, Option.or_eq_some_iff] at offered
  obtain reported | ⟨_, written⟩ := offered
  · exact binds_iff.1 (Option.filter_eq_some_iff.1 reported).2
  · exact binds_iff.1 (Option.filter_eq_some_iff.1 written).2

theorem bodyKey?_eq_filter :
    query.bodyKey? key = (query.writtenKey? key).filter fun value => !value.isNull := by
  unfold bodyKey? writtenKey?
  cases query.body with
  | none => rfl
  | some body => cases body <;> rfl

/-- Where nothing else is bound as null than null itself, it is the same to pass null over and
to pass over what is bound as null. -/
theorem filter_binds {cell : Option Json}
    (closed : ∀ text, cell = some (.string text) → ¬ IsOpenBound text) :
    cell.filter Json.binds = cell.filter fun value => !value.isNull := by
  cases cell with
  | none => rfl
  | some json =>
    have same : json.binds = !json.isNull := by
      rw [Bool.eq_iff_iff, binds_iff, ne_eq, Value.ofJson_eq_null]
      cases json with
      | string text => simpa [Json.isNull] using closed text rfl
      | _ => simp [Json.isNull]
    simp only [Option.filter, same]

/-- A source that offers no null has the key that is taken from it. -/
theorem generatedKey?_eq_bound (bound : ∀ id, ¬ query.TakesNull dialect response key id) :
    generatedKey? dialect response = (reportedKey? dialect response).filter Json.binds := by
  have driver (reports : dialect = .mysql ∨ dialect = .mariadb) :
      response.lastKey.map Value.toJson = (response.lastKey.map Value.toJson).filter Json.binds := by
    cases last : response.lastKey with
    | none => rfl
    | some value =>
      have binds : value.toJson.binds = true :=
        binds_iff.2 fun null => bound _ (.driver reports last (Value.fades_iff.2 null))
      simp [Option.filter, binds]
  cases dialect with
  | postgres | oracle => rfl
  | mysql => exact driver (.inl rfl)
  | mariadb => exact driver (.inr rfl)
  | sqlServer => exact (filter_binds fun text cell opens => bound _ (.selected rfl cell opens)).symm

/-- A created row for which no null is taken is identified as it should be. -/
theorem identity_eq_bound (creates : query.operation = .create)
    (bound : ∀ key, query.table?.bind Table.key? = some key →
      ∀ id, ¬ query.TakesNull dialect response key id) :
    query.identity? dialect response = query.boundIdentity? dialect response := by
  rw [identity?, boundIdentity?]
  cases keyed : query.table?.bind Table.key? with
  | none => simp [creates]
  | some key =>
    have generated := generatedKey?_eq_bound (bound key keyed)
    cases reported : generatedKey? dialect response with
    | some id =>
      rw [reported] at generated
      simp [creates, boundKey?, ← generated]
    | none =>
      have given : query.bodyKey? key = (query.writtenKey? key).filter Json.binds := by
        rw [bodyKey?_eq_filter]
        exact (filter_binds fun text cell opens => bound key keyed _
          (.body (generatedKey?_eq_none.1 reported) cell opens)).symm
      rw [reported] at generated
      simp [creates, boundKey?, ← generated, given]

/-- A key that is taken for a created row identifies it, and is bound as null. -/
theorem identity_of_takesNull (creates : query.operation = .create)
    (keyed : query.table?.bind Table.key? = some key) (taken : query.TakesNull dialect response key id) :
    query.identity? dialect response = some (equalFilter key id) ∧ Value.ofJson id = .null := by
  cases taken with
  | driver driver last fades =>
    refine ⟨identity_of_identified (.generated creates keyed (.lastKey driver last)), ?_⟩
    exact Value.fades_iff.1 fades
  | @selected text selects cell opens =>
    have reported : generatedKey? dialect response = some (.string text) := by
      subst selects
      exact filter_isNull.2 ⟨cell, by simp⟩
    refine ⟨identity_of_identified (.generated creates keyed (generatedKey?_eq_some.1 reported)), ?_⟩
    exact Value.ofJson_eq_null.2 (.inr ⟨text, rfl, opens⟩)
  | @body text unreported cell opens =>
    have given : query.bodyKey? key = some (.string text) := by
      rw [bodyKey?_eq_filter]
      exact filter_isNull.2 ⟨cell, by simp⟩
    obtain ⟨row, body, found, kept⟩ := bodyKey?_eq_some.1 given
    refine ⟨identity_of_identified (.given creates keyed unreported body found kept), ?_⟩
    exact Value.ofJson_eq_null.2 (.inr ⟨text, rfl, opens⟩)

/-- The read by a key asks one thing of the column that the key leads to. -/
theorem asked_rowRead (query : Query) (dialect : Dialect) (key : String) (id : Json) :
    (rowRead dialect query.target query.table? (equalFilter key id)).asked =
      [match Value.ofJson id with
        | .null => .isNull (query.unaliased.filterColumn key) false
        | value => .compare (query.unaliased.filterColumn key) .equal value] := by
  have resolved (pass : Pass) : Scope.resolve ⟨query.target.name, .empty, pass⟩ key =
      if pass.takes key then some (query.unaliased.filterColumn key) else none :=
    resolve_eq query.unaliased pass key
  have condition (scope : Scope) : (equalFilter key id).normalized.condition dialect scope =
      ⟨.and, [⟨key, .equal (Value.ofJson id)⟩].filterMap (Filter.predicate? dialect scope)⟩ := rfl
  simp only [rowRead, oneRow, Select.asked, condition, Filter.predicate?, resolved, List.filterMap_cons,
    List.filterMap_nil]
  -- A key is taken up in one of the two passes, and asks there what it asks.
  cases related : Key.isRelated key <;> simp only [Pass.takes, related] <;>
    cases Value.ofJson id <;> rfl

end

end Query

/-! ## Creates -/

/-- The statements behind a create with this answer: the read of its row, if it is identified. -/
def Query.readsBehind (compiler : Compiler) (query : Query) : Except Error Response → List Compiled
  | .error _ => []
  | .ok response => (query.identity? compiler.dialect response).toList.map fun filter =>
    compiler.write .read (.select (rowRead compiler.dialect query.target query.table? filter))

/-- A create that compiles is issued first, and what follows depends on its answer. -/
theorem reads_behind_create {query : Query} {compiler : Compiler} {process : List Row → List Row}
    {turns : List (Turn Compiled)} {result : Except Error Outcome} (creates : query.operation = .create)
    (course : query.WritesAndReads compiler process turns result) :
    (turns = [] ∧ ∃ error, compiler.compile query = .error error) ∨
      ∃ write answer behind, compiler.compile query = .ok write ∧ turns = ⟨write, answer⟩ :: behind ∧
        behind.map Turn.statement = query.readsBehind compiler answer := by
  have keeps : query.operation ≠ .delete := by simp [creates]
  cases course with
  | silent fails => exact .inl ⟨rfl, _, fails⟩
  | failed compiles keeps => exact .inr ⟨_, _, _, compiles, rfl, rfl⟩
  | written compiles keeps identified reads =>
    refine .inr ⟨_, _, _, compiles, rfl, ?_⟩
    rw [Query.readsBehind, Query.identity_of_identified identified]
    cases reads <;> rfl
  | spared compiles deletes reads => exact absurd deletes keeps
  | deleted compiles deletes answer reads => exact absurd deletes keeps

/-- A created row is read by a key that is bound as a value, with few exceptions. A create on a
dialect that does not return rows is followed by one read at most, by what identifies its row.
This is the first key on offer that is bound as a value, from the source of the dialect or else
from the body, and the read compares the key of the table with it; without such a key it is the
filter that the query brings along, and without this one nothing is read. The exceptions are
values that fade, if a driver reports them, and the text of an open bound, selected by SQL
Server or else in the body: they are taken for keys, and then a row without a key is read. -/
theorem created_row_is_read_by_a_bound_key (query : Query) (creates : query.operation = .create)
    (dialect : Dialect) (silent : dialect.returnsRows = false) (cap : Nat)
    (process : List Row → List Row) {S : Type} (serve : S → Compiled → Except Error Response × S)
    (start : S) :
    let compiler := Compiler.of dialect cap
    let run := (query.conversation dialect cap process).run serve start
    ((run.turns = [] ∧ ∃ error, compiler.compile query = .error error) ∨
      ∃ write answer behind, compiler.compile query = .ok write ∧
        run.turns = ⟨write, answer⟩ :: behind ∧
        behind.map Turn.statement = query.readsBehind compiler answer) ∧
    ∀ response,
      ((∀ key, query.table?.bind Table.key? = some key →
          ∀ id, ¬ query.TakesNull dialect response key id) →
        query.identity? dialect response = query.boundIdentity? dialect response) ∧
      ∀ key, query.table?.bind Table.key? = some key →
        (∀ id, query.boundKey? dialect response key = some id →
          Value.ofJson id ≠ .null ∧
          (Query.rowRead dialect query.target query.table? (Query.equalFilter key id)).asked =
            [.compare (query.unaliased.filterColumn key) .equal (Value.ofJson id)]) ∧
        ∀ id, query.TakesNull dialect response key id →
          query.identity? dialect response = some (Query.equalFilter key id) ∧
          (Query.rowRead dialect query.target query.table? (Query.equalFilter key id)).asked =
            [.isNull (query.unaliased.filterColumn key) false] := by
  have course := silent_write_reads process query serve start dialect cap silent (.inl creates)
  refine ⟨reads_behind_create creates course, ?_⟩
  intro response
  refine ⟨Query.identity_eq_bound creates, ?_⟩
  intro key keyed
  constructor
  · intro id offered
    have binds : Value.ofJson id ≠ .null := Query.binds_of_boundKey? offered
    refine ⟨binds, ?_⟩
    rw [Query.asked_rowRead]
    cases value : Value.ofJson id with
    | null => exact absurd value binds
    | _ => rfl
  · intro id taken
    obtain ⟨identified, null⟩ := Query.identity_of_takesNull creates keyed taken
    refine ⟨identified, ?_⟩
    rw [Query.asked_rowRead, null]

/-- A person whose number is in the body, in a table that numbers its rows. -/
def numberedPerson : Query :=
  { Query.plain "persons" .create with
    details := some ⟨some ⟨"persons", ["id"], .empty⟩⟩
    body := some (.row (.ofList [("id", .number (.ofInt64 5)), ("name", .string "Ann")]))
    extra := some ⟨some ⟨false, [⟨"name", .equal (.string "Ann")⟩]⟩⟩ }

/-- SQL Server selects null for the number, which counts as none, and the one in the body is
next. -/
theorem numbered_person_is_read_by_number :
    numberedPerson.operation = .create ∧ Dialect.sqlServer.returnsRows = false ∧
      let response : Response := ⟨[.ofList [("id", .null)]], none⟩
      let filter := Query.equalFilter "id" (.number (.ofInt64 5))
      numberedPerson.identity? .sqlServer response = some filter ∧
        (Query.rowRead .sqlServer numberedPerson.target numberedPerson.table? filter).asked =
          [.compare ⟨some "persons", "id"⟩ .equal (.int 5)] ∧
        ∃ write lookup, ((numberedPerson.conversation .sqlServer 10 id).run Conversation.scripted
            [.ok response, .ok .empty]).turns = [⟨write, .ok response⟩, ⟨lookup, .ok .empty⟩] ∧
          [lookup] = numberedPerson.readsBehind (.of .sqlServer 10) (.ok response) ∧
          lookup.text = "SELECT * FROM (SELECT TOP (1) * FROM [persons]" ++
            " WHERE [persons].[id] = @p1 ORDER BY [persons].[id] ASC) AS [persons]" := by
  let response : Response := ⟨[.ofList [("id", .null)]], none⟩
  obtain ⟨course, known⟩ := created_row_is_read_by_a_bound_key numberedPerson rfl .sqlServer rfl 10 id
    Conversation.scripted [.ok response, .ok .empty]
  obtain ⟨same, keyed⟩ := known response
  have kept : ∀ key, numberedPerson.table?.bind Table.key? = some key →
      ∀ id, ¬ numberedPerson.TakesNull .sqlServer response key id := by
    intro key described id taken
    obtain rfl : "id" = key := Option.some.inj described
    cases taken with
    | driver driver => simp at driver
    | selected _ cell => cases cell
    | body _ cell => cases cell
  obtain ⟨_, compared⟩ := (keyed "id" rfl).1 (.number (.ofInt64 5)) (by rfl)
  have bound : Value.ofJson (.number (.ofInt64 5)) = .int 5 := Value.ofJson_toJson_int 5
  rw [bound] at compared
  refine ⟨rfl, rfl, same kept, compared, _, _, rfl, ?_, by decide +kernel⟩
  obtain ⟨none, _⟩ | ⟨write, answer, behind, _, ran, follows⟩ := course
  · cases none
  · cases ran
    exact follows

/-- A person with the text of an open bound in the place of a number. -/
def openPerson : Query :=
  { numberedPerson with
    body := some (.row (.ofList [("id", .string openLow), ("name", .string "Ann")])) }

/-- A created row is read by null, too: Oracle reports no key, and the text of an open bound in
the body is taken for one; a driver's null is taken in front of the number in the body. -/
theorem open_bound_is_taken_for_a_key :
    (∃ write lookup, ((openPerson.conversation .oracle 10 id).run Conversation.scripted []).turns.map
        Turn.statement = [write, lookup] ∧
      lookup.text = "SELECT * FROM (SELECT * FROM \"persons\"" ++
        " WHERE \"persons\".\"id\" IS NULL FETCH NEXT 1 ROWS ONLY) \"persons\"" ∧
      lookup.bindings = []) ∧
    ¬ ∀ (query : Query) (dialect : Dialect) (response : Response) (key : String) (id : Json),
      query.operation = .create → dialect.returnsRows = false →
      query.table?.bind Table.key? = some key →
      query.identity? dialect response = some (Query.equalFilter key id) →
      ∃ column value, value ≠ .null ∧
        (Query.rowRead dialect query.target query.table? (Query.equalFilter key id)).asked =
          [.compare column .equal value] := by
  refine ⟨⟨_, _, by rfl, by decide +kernel, by decide +kernel⟩, ?_⟩
  intro claimed
  obtain ⟨column, value, _, compared⟩ := claimed numberedPerson .mysql ⟨[], some .null⟩ "id" .null rfl rfl
    rfl rfl
  rw [Query.asked_rowRead] at compared
  cases compared

end Polyquery
