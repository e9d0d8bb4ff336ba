import Polyquery.Execute.Conversation
import Polyquery.Proofs.Plans

/-! What a query does when it is run. The executor may answer a statement with
anything, rows or an error, and may remember what it was asked; of every such run
it is known which statements are issued, in which order, and what an error does.
A query writes at most once, an error ends the run and is its result, and nothing
can fail to compile once a statement has been issued. -/
namespace Polyquery
open Sql

/-! ## Runs -/

/-- A statement that was issued, and its answer. -/
structure Turn (σ : Type) where
  statement : σ
  answer : Except Error Response

/-- A conversation that is over: its turns in order, its result, and the state that
the executor is left in. -/
structure Run (σ S : Type) where
  turns : List (Turn σ)
  result : Except Error Outcome
  state : S

namespace Conversation
variable {σ S : Type}

/-- The conversation with an executor that is in some state. -/
def run (serve : S → σ → Except Error Response × S) : Conversation σ → S → Run σ S
  | .finish result, state => ⟨[], result, state⟩
  | .ask statement next, state =>
    let (answer, after) := serve state statement
    let rest := (next answer).run serve after
    { rest with turns := ⟨statement, answer⟩ :: rest.turns }

/-- The executor that answers from a script, and with nothing behind its end. -/
def scripted (script : List (Except Error Response)) (_ : σ) :
    Except Error Response × List (Except Error Response) :=
  (script.head?.getD (.ok .empty), script.tail)

/-- To hold a conversation with scripted answers is one way to run it. -/
theorem hold_eq_run (conversation : Conversation σ) (script : List (Except Error Response)) :
    conversation.hold script =
      ((conversation.run scripted script).turns.map Turn.statement,
        (conversation.run scripted script).result) := by
  induction conversation generalizing script with
  | finish result => rfl
  | ask statement next ih =>
    have rest := ih (script.head?.getD (.ok .empty)) script.tail
    simp only [hold, run, scripted, rest, List.map_cons]

/-- The answers of a run, given once more in their order, make the same run. -/
theorem run_scripted (serve : S → σ → Except Error Response × S) (conversation : Conversation σ)
    (state : S) :
    let first := conversation.run serve state
    let again := conversation.run scripted (first.turns.map Turn.answer)
    again.turns = first.turns ∧ again.result = first.result := by
  induction conversation generalizing state with
  | finish result => exact ⟨rfl, rfl⟩
  | ask statement next ih =>
    rcases served : serve state statement with ⟨answer, after⟩
    obtain ⟨turns, result⟩ := ih answer after
    simp only [run, served, scripted, List.map_cons, List.head?_cons, Option.getD_some, List.tail_cons]
    exact ⟨congrArg (_ :: ·) turns, result⟩

variable {serve : S → σ → Except Error Response × S} {state after : S} {statement : σ}
  {next : Response → Conversation σ}

/-- An error is the last answer of a run, and its result. -/
theorem run_send_error {error : Error} (answered : serve state statement = (.error error, after)) :
    (send statement next).run serve state = ⟨[⟨statement, .error error⟩], .error error, after⟩ := by
  simp [send, run, answered]

theorem run_send_ok {response : Response} (answered : serve state statement = (.ok response, after)) :
    (send statement next).run serve state =
      { (next response).run serve after with
        turns := ⟨statement, .ok response⟩ :: ((next response).run serve after).turns } := by
  simp [send, run, answered]

end Conversation

/-! ## The course of a query -/

/-- The result is an error exactly if the answer is, and it is the same error. -/
def Passes (answer : Except Error Response) (result : Except Error Outcome) : Prop :=
  ∀ error, result = .error error ↔ answer = .error error

theorem passes_ok {response : Response} {outcome : Outcome} : Passes (.ok response) (.ok outcome) :=
  fun _ => ⟨nofun, nofun⟩

theorem passes_error (error : Error) : Passes (.error error) (.error error) := fun other => by simp

namespace Query

/-- Whether one statement is all that the query takes. -/
def isDirect (query : Query) (dialect : Dialect) : Bool :=
  dialect.returnsRows || query.operation = .read || query.operation = .bulkCreate

/-- The filter through which a written row is read back, once its write is
answered. -/
def followUp? (query : Query) (dialect : Dialect) : Except Error Response → Option (Filters Json)
  | .error _ => none
  | .ok response => query.identity? dialect response

/-- The operations on whole tables, for which there is no statement. -/
def isTableOperation (query : Query) : Bool :=
  query.operation = .createTable || query.operation = .updateTable || query.operation = .deleteTable

/-- The ways in which a run of a query can go: its turns and its result. -/
inductive Course {σ : Type} (compile : Query → Except Error σ) (dialect : Dialect) (query : Query) :
    List (Turn σ) → Except Error Outcome → Prop where
  /-- Nothing is issued for a query that does not compile. -/
  | silent {error : Error} (fails : compile query = .error error) :
    Course compile dialect query [] (.error error)
  /-- One statement and no other. -/
  | direct {statement : σ} {answer : Except Error Response} {result : Except Error Outcome}
    (compiles : compile query = .ok statement) (direct : query.isDirect dialect = true)
    (passes : Passes answer result) :
    Course compile dialect query [⟨statement, answer⟩] result
  /-- A write behind which nothing is read: it failed, or its row is not known. -/
  | unread {write : σ} {answer : Except Error Response} {result : Except Error Outcome}
    (compiles : compile query = .ok write) (emulated : query.isDirect dialect = false)
    (keeps : query.operation ≠ .delete) (unknown : query.followUp? dialect answer = none)
    (passes : Passes answer result) :
    Course compile dialect query [⟨write, answer⟩] result
  /-- A write behind which its row is read. -/
  | readBack {write lookup : σ} {answer reply : Except Error Response}
    {result : Except Error Outcome} {filter : Filters Json}
    (compiles : compile query = .ok write) (emulated : query.isDirect dialect = false)
    (keeps : query.operation ≠ .delete) (known : query.followUp? dialect answer = some filter)
    (looks : compile (query.lookup filter) = .ok lookup) (passes : Passes reply result) :
    Course compile dialect query [⟨write, answer⟩, ⟨lookup, reply⟩] result
  /-- A delete of which it is not known what it deletes. -/
  | blind {write : σ} {answer : Except Error Response} {result : Except Error Outcome}
    (compiles : compile query = .ok write) (emulated : query.isDirect dialect = false)
    (deletes : query.operation = .delete) (unknown : query.idFilter? = none)
    (passes : Passes answer result) :
    Course compile dialect query [⟨write, answer⟩] result
  /-- A delete that is given up since its row could not be read. -/
  | spared {write lookup : σ} {error : Error} {filter : Filters Json}
    (compiles : compile query = .ok write) (emulated : query.isDirect dialect = false)
    (deletes : query.operation = .delete) (known : query.idFilter? = some filter)
    (looks : compile (query.lookup filter) = .ok lookup) :
    Course compile dialect query [⟨lookup, .error error⟩] (.error error)
  /-- A delete in front of which its row is read. -/
  | readBefore {write lookup : σ} {response : Response} {answer : Except Error Response}
    {result : Except Error Outcome} {filter : Filters Json}
    (compiles : compile query = .ok write) (emulated : query.isDirect dialect = false)
    (deletes : query.operation = .delete) (known : query.idFilter? = some filter)
    (looks : compile (query.lookup filter) = .ok lookup) (passes : Passes answer result) :
    Course compile dialect query [⟨lookup, .ok response⟩, ⟨write, answer⟩] result

end Query

section
variable {σ S : Type} {compile : Query → Except Error σ} {process : List Row → List Row} {query : Query}
  {dialect : Dialect} {serve : S → σ → Except Error Response × S}
open Conversation

/-- A last statement is answered, and its answer decides on the result. -/
theorem run_last (serve : S → σ → Except Error Response × S) (statement : σ) (f : Response → Outcome)
    (state : S) :
    ∃ answer result after,
      (send statement fun response => .finish (.ok (f response))).run serve state =
        ⟨[⟨statement, answer⟩], result, after⟩ ∧ Passes answer result := by
  rcases served : serve state statement with ⟨answer, after⟩
  cases answer with
  | error error => exact ⟨_, _, _, run_send_error served, passes_error error⟩
  | ok response => exact ⟨_, _, _, run_send_ok served, passes_ok⟩

/-- An emulated create or update: the write, and the read behind it. -/
theorem write_course (lookups : ∀ filter, ∃ lookup, compile (query.lookup filter) = .ok lookup)
    {write : σ} (compiles : compile query = .ok write) (emulated : query.isDirect dialect = false)
    (keeps : query.operation ≠ .delete) (state : S) :
    let run := (query.emulated compile process dialect).run serve state
    query.Course compile dialect run.turns run.result := by
  rcases served : serve state write with ⟨answer, after⟩
  simp only [Query.emulated, compiles, keeps, ↓reduceIte]
  cases answer with
  | error error =>
    rw [run_send_error served]
    exact .unread compiles emulated keeps rfl (passes_error error)
  | ok response =>
    rw [run_send_ok served]
    cases identified : query.identity? dialect response with
    | none => exact .unread compiles emulated keeps identified passes_ok
    | some filter =>
      obtain ⟨lookup, looks⟩ := lookups filter
      obtain ⟨reply, result, last, ran, passes⟩ := run_last serve lookup
        (fun response => .row ((process response.rows).headD .empty)) after
      simp only [Query.readBack, looks, say, ran]
      exact .readBack compiles emulated keeps identified looks passes

/-- An emulated delete: the read of its row, and the delete behind it. -/
theorem delete_course (lookups : ∀ filter, ∃ lookup, compile (query.lookup filter) = .ok lookup)
    {write : σ} (compiles : compile query = .ok write) (emulated : query.isDirect dialect = false)
    (deletes : query.operation = .delete) (state : S) :
    let run := (query.emulated compile process dialect).run serve state
    query.Course compile dialect run.turns run.result := by
  simp only [Query.emulated, compiles, deletes, ↓reduceIte]
  cases known : query.idFilter? with
  | none =>
    obtain ⟨answer, result, last, ran, passes⟩ := run_last serve write (fun _ => .row .empty) state
    simp only [Query.readBack, ran]
    exact .blind compiles emulated deletes known passes
  | some filter =>
    obtain ⟨lookup, looks⟩ := lookups filter
    simp only [Query.readBack, looks, say]
    rcases served : serve state lookup with ⟨reply, after⟩
    cases reply with
    | error error =>
      rw [run_send_error served]
      exact .spared compiles emulated deletes known looks
    | ok response =>
      obtain ⟨answer, result, last, ran, passes⟩ := run_last serve write
        (fun _ => .row ((process response.rows).headD .empty)) after
      rw [run_send_ok served, ran]
      exact .readBefore compiles emulated deletes known looks passes

/-- A query that is one statement. -/
theorem direct_course {statement : σ} (compiles : compile query = .ok statement)
    (direct : query.isDirect dialect = true) (f : Response → Outcome) (state : S) :
    let run := (say (compile query) fun response => .finish (.ok (f response))).run serve state
    query.Course compile dialect run.turns run.result := by
  obtain ⟨answer, result, last, ran, passes⟩ := run_last serve statement f state
  simp only [say, compiles, ran]
  exact .direct compiles direct passes

/-- The conversation of a query with one statement is that statement, and its
answer makes the result. -/
theorem converse_direct (compile : Query → Except Error σ) (process : List Row → List Row)
    (operates : query.isTableOperation = false) (direct : query.isDirect dialect = true) :
    ∃ f : Response → Outcome, query.converse compile process dialect =
      say (compile query) fun response => .finish (.ok (f response)) := by
  unfold Query.converse
  unfold Query.isDirect at direct
  unfold Query.isTableOperation at operates
  cases operation : query.operation <;> simp only [operation] at direct operates ⊢
  case read => exact ⟨_, rfl⟩
  case bulkCreate => exact ⟨_, rfl⟩
  case create | update | delete =>
    have returns : dialect.returnsRows = true := by simpa using direct
    simp only [returns, ↓reduceIte]
    exact ⟨_, rfl⟩
  all_goals cases operates

theorem converse_emulated (process : List Row → List Row) (operates : query.isTableOperation = false)
    (emulated : query.isDirect dialect = false) :
    query.converse compile process dialect = query.emulated compile process dialect := by
  unfold Query.converse
  unfold Query.isDirect at emulated
  unfold Query.isTableOperation at operates
  cases operation : query.operation <;> simp_all

/-- Whatever the executor does, a run goes in one of the known ways. -/
theorem converse_course (process : List Row → List Row) (dialect : Dialect)
    (serve : S → σ → Except Error Response × S)
    (lookups : ∀ filter, ∃ lookup, compile (query.lookup filter) = .ok lookup)
    (tables : query.isTableOperation = true → compile query = .error (.unsupported query.operation))
    (state : S) :
    let run := (query.converse compile process dialect).run serve state
    query.Course compile dialect run.turns run.result := by
  cases operates : query.isTableOperation with
  | true =>
    have silent : query.converse compile process dialect =
        .finish (.error (.unsupported query.operation)) := by
      unfold Query.converse
      unfold Query.isTableOperation at operates
      cases operation : query.operation <;> simp_all
    rw [silent]
    exact .silent (tables operates)
  | false =>
    cases direct : query.isDirect dialect with
    | true =>
      obtain ⟨f, said⟩ := converse_direct compile process operates direct
      rw [said]
      cases compiles : compile query with
      | error error => exact .silent compiles
      | ok statement => simpa only [compiles] using direct_course compiles direct f state
    | false =>
      rw [converse_emulated process operates direct]
      cases compiles : compile query with
      | error error =>
        simp only [Query.emulated, compiles]
        exact .silent compiles
      | ok write =>
        by_cases deletes : query.operation = .delete
        · exact delete_course lookups compiles direct deletes state
        · exact write_course lookups compiles direct deletes state

end

/-! ## Order -/

/-- The read of one row is planned without fail: a page of one row, and nothing
around it. -/
theorem Query.lookup_plan (query : Query) (filter : Filters Json) (dialect : Dialect) (cap : Nat)
    (returning : Bool) :
    (query.lookup filter).plan dialect cap returning = .ok (.select (.derived
      (.table (query.lookup filter).pageTable ((query.lookup filter).pageClauses dialect ⟨1, none⟩))
      query.tableName ((query.lookup filter).outerClauses dialect cap []))) := by
  have window : Window.ofPaging (query.lookup filter).paging cap = .ok ⟨1, none⟩ := rfl
  have joins : (query.lookup filter).joins = .ok [] := rfl
  have reads : (query.lookup filter).operation = .read := rfl
  rw [Query.plan, reads]
  simp only [Query.select_eq, Query.page_eq, window, joins]
  rfl

/-- What holds of the turns and the result of a query, however it was answered. -/
structure Query.Orderly (query : Query) (compiler : Compiler) (turns : List (Turn Compiled))
    (result : Except Error Outcome) : Prop where
  /-- Without a statement nothing is issued, and why there is none is the result. -/
  uncompiled : ∀ error, compiler.compile query = .error error → turns = [] ∧ result = .error error
  tables : query.isTableOperation = true →
    turns = [] ∧ result = .error (.unsupported query.operation)
  direct : ∀ statement, compiler.compile query = .ok statement →
    query.isDirect compiler.dialect = true → turns.map Turn.statement = [statement]
  /-- A create or an update comes before the read of its row, if that is known. -/
  writeFirst : ∀ write, compiler.compile query = .ok write →
    query.isDirect compiler.dialect = false → query.operation ≠ .delete →
    ∃ answer back, turns = ⟨write, answer⟩ :: back ∧
      back.map (fun turn => Except.ok turn.statement) =
        (query.followUp? compiler.dialect answer).toList.map fun filter =>
          compiler.compile (query.lookup filter)
  /-- A delete without a filter on its row reads nothing. -/
  deleteAlone : ∀ write, compiler.compile query = .ok write →
    query.isDirect compiler.dialect = false → query.operation = .delete → query.idFilter? = none →
    turns.map Turn.statement = [write]
  /-- A delete with one comes behind the read, unless that fails. -/
  deleteLast : ∀ write filter, compiler.compile query = .ok write →
    query.isDirect compiler.dialect = false → query.operation = .delete →
    query.idFilter? = some filter →
    ∃ lookup reply behind, compiler.compile (query.lookup filter) = .ok lookup ∧
      turns = ⟨lookup, reply⟩ :: behind ∧
      behind.map Turn.statement = if reply.isOk then [write] else []
  atMostOnce : ∀ statement, compiler.compile query = .ok statement →
    (turns.map Turn.statement).count statement ≤ 1
  onceIfDone : ∀ outcome, result = .ok outcome →
    ∃ statement, compiler.compile query = .ok statement ∧
      (turns.map Turn.statement).count statement = 1
  /-- An error is the answer to the last statement, and it is the result. -/
  failureEnds : ∀ before turn behind error, turns = before ++ turn :: behind →
    turn.answer = .error error → behind = [] ∧ result = .error error
  /-- There is no other error, unless nothing was issued. -/
  failureAnswered : ∀ error, result = .error error →
    turns = [] ∧ compiler.compile query = .error error ∨
      ∃ turn, turns.getLast? = some turn ∧ turn.answer = .error error

section
variable {query : Query} {compiler : Compiler} {filter : Filters Json} {statement : Compiled}

theorem compiled_operation (compiles : compiler.compile query = .ok statement) :
    statement.operation = query.operation := by
  obtain ⟨plan, planned, rfl⟩ := Query.ok_of_map_ok compiles
  rfl

/-- The read of one row always compiles. -/
theorem lookup_compiles (compiler : Compiler) (query : Query) (filter : Filters Json) :
    ∃ lookup, compiler.compile (query.lookup filter) = .ok lookup := by
  rw [Compiler.compile, Query.lookup_plan]
  exact ⟨_, rfl⟩

theorem compile_tableOperation (compiler : Compiler) (operates : query.isTableOperation = true) :
    compiler.compile query = .error (.unsupported query.operation) := by
  unfold Compiler.compile Query.plan
  unfold Query.isTableOperation at operates
  cases operation : query.operation <;> simp_all [Except.map]

/-- A written row is read back through a statement that is not the write. -/
theorem lookup_ne_write {lookup : Compiled} (compiles : compiler.compile query = .ok statement)
    (emulated : query.isDirect compiler.dialect = false)
    (looks : compiler.compile (query.lookup filter) = .ok lookup) : lookup ≠ statement := by
  -- A compiled statement carries the operation of its query, and a lookup is a read.
  intro same
  have reads : query.operation = .read := by
    rw [← compiled_operation compiles, ← same, compiled_operation looks]
    rfl
  simp [Query.isDirect, reads] at emulated

variable {turns : List (Turn Compiled)} {result : Except Error Outcome}

/-- A run that issued something got all but its last answer, and passes that on. -/
theorem course_end (course : query.Course compiler.compile compiler.dialect turns result)
    (issued : turns ≠ []) :
    ∃ before last, turns = before ++ [last] ∧ (∀ turn ∈ before, turn.answer.isOk = true) ∧
      Passes last.answer result := by
  cases course with
  | silent => exact absurd rfl issued
  | direct _ _ passes => exact ⟨[], _, rfl, by simp, passes⟩
  | unread _ _ _ _ passes => exact ⟨[], _, rfl, by simp, passes⟩
  | blind _ _ _ _ passes => exact ⟨[], _, rfl, by simp, passes⟩
  | spared => exact ⟨[], _, rfl, by simp, passes_error _⟩
  | readBefore _ _ _ _ _ passes =>
    exact ⟨[_], _, rfl, fun turn first => by rw [List.mem_singleton.1 first]; rfl, passes⟩
  | @readBack write lookup answer reply result filter _ _ _ known _ passes =>
    refine ⟨[_], _, rfl, fun turn first => ?_, passes⟩
    rw [List.mem_singleton.1 first]
    cases answer with
    -- Behind a failed write no row is known.
    | error error => cases known
    | ok response => rfl

/-- An answer that is not the last one is no error. -/
theorem error_is_last {before front behind : List (Turn Compiled)} {last turn : Turn Compiled}
    {error : Error} (answered : ∀ turn ∈ before, turn.answer.isOk = true)
    (split : before ++ [last] = front ++ turn :: behind) (fails : turn.answer = .error error) :
    behind = [] ∧ turn = last := by
  rcases List.eq_nil_or_concat behind with rfl | ⟨middle, final, rfl⟩
  · obtain ⟨_, same⟩ := List.append_inj' split rfl
    exact ⟨rfl, (List.singleton_inj.1 same).symm⟩
  · have whole : before ++ [last] = (front ++ turn :: middle) ++ [final] := by simpa using split
    obtain ⟨inside, _⟩ := List.append_inj' whole rfl
    have ok := answered turn (by simp [inside])
    rw [fails] at ok
    cases ok

/-- How often the statement of the query is issued: once, unless it is a delete
that is given up. -/
theorem course_count (course : query.Course compiler.compile compiler.dialect turns result)
    (compiles : compiler.compile query = .ok statement) :
    (turns.map Turn.statement).count statement = 1 ∨
      (turns.map Turn.statement).count statement = 0 ∧ ∃ error, result = .error error := by
  cases course with
  | silent fails =>
    rw [fails] at compiles
    cases compiles
  | direct compiled | unread compiled | blind compiled =>
    cases compiled.symm.trans compiles
    exact .inl (by simp)
  | readBack compiled emulated _ _ looks | readBefore compiled emulated _ _ looks =>
    cases compiled.symm.trans compiles
    exact .inl (by simp [lookup_ne_write compiled emulated looks])
  | spared compiled emulated _ _ looks =>
    cases compiled.symm.trans compiles
    exact .inr ⟨by simp [lookup_ne_write compiled emulated looks], _, rfl⟩

/-- Every way in which a run can go keeps the order. -/
theorem orderly_of_course (course : query.Course compiler.compile compiler.dialect turns result) :
    query.Orderly compiler turns result where
  uncompiled error fails := by cases course <;> simp_all
  tables operates := by
    have fails := compile_tableOperation compiler operates
    cases course <;> simp_all
  direct statement compiles isDirect := by cases course <;> simp_all
  writeFirst write compiles emulated keeps := by
    cases course with
    | unread compiled _ _ unknown =>
      cases compiled.symm.trans compiles
      exact ⟨_, [], rfl, by simp [unknown]⟩
    | readBack compiled _ _ known looks =>
      cases compiled.symm.trans compiles
      exact ⟨_, [_], rfl, by simp [known, looks]⟩
    | _ => simp_all
  deleteAlone write compiles emulated deletes unknown := by cases course <;> simp_all
  deleteLast write filter compiles emulated deletes known := by
    cases course with
    | spared compiled _ _ found looks =>
      cases found.symm.trans known
      exact ⟨_, _, [], looks, rfl, rfl⟩
    | readBefore compiled _ _ found looks =>
      cases compiled.symm.trans compiles
      cases found.symm.trans known
      exact ⟨_, _, [_], looks, rfl, rfl⟩
    | _ => simp_all
  atMostOnce statement compiles := by
    rcases course_count course compiles with once | ⟨never, _⟩ <;> omega
  onceIfDone outcome done := by
    cases compiles : compiler.compile query with
    | error error => cases course <;> simp_all
    | ok statement =>
      rcases course_count course compiles with once | ⟨_, error, failed⟩
      · exact ⟨statement, rfl, once⟩
      · cases done.symm.trans failed
  failureEnds before turn behind error split fails := by
    have issued : turns ≠ [] := by simp [split]
    obtain ⟨front, last, shape, answered, passes⟩ := course_end course issued
    obtain ⟨ended, rfl⟩ := error_is_last answered (shape.symm.trans split) fails
    exact ⟨ended, (passes error).2 fails⟩
  failureAnswered error fails := by
    by_cases issued : turns = []
    · cases course <;> simp_all
    · obtain ⟨front, last, rfl, _, passes⟩ := course_end course issued
      exact .inr ⟨last, by simp, (passes error).1 fails⟩

end

/-- A run of a query keeps the order, whatever it is answered: its statements come
in the order of its operation, it writes at most once, and exactly once if it
succeeds, and an error is the last answer and the result. The read of a row always
compiles, so nothing fails to compile behind a write. -/
theorem every_run_is_orderly (query : Query) (dialect : Dialect) (cap : Nat)
    (process : List Row → List Row) {S : Type} (serve : S → Compiled → Except Error Response × S)
    (start : S) :
    let run := (query.conversation dialect cap process).run serve start
    query.Orderly (.of dialect cap) run.turns run.result ∧
      ∀ filter, ∃ lookup, (Compiler.of dialect cap).compile (query.lookup filter) = .ok lookup := by
  have lookups := lookup_compiles (.of dialect cap) query
  have course := converse_course process dialect serve lookups
    (compile_tableOperation (.of dialect cap)) start
  exact ⟨orderly_of_course course, lookups⟩

end Polyquery
