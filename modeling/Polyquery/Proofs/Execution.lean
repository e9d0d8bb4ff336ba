import Polyquery.Proofs.Engine

/-! Queries carried out on a table. The statements of a conversation are taken as
they are planned; what a database is sent is their text. A dialect that returns
written rows is done with the write. On the others a create or an update is
followed by the read of its row, and a delete comes behind that read. -/
namespace Polyquery
open Sql

/-! ## Planned conversations -/

/-- What is compiled for a query: its operation, and its statement as a value. -/
def Query.planned (query : Query) (compiler : Compiler) : Except Error (Operation × Statement) :=
  (query.plan compiler.dialect compiler.rowCap compiler.returning).map (query.operation, ·)

/-- The conversation in other words. -/
def Conversation.map {σ τ : Type} (g : σ → τ) : Conversation σ → Conversation τ
  | .finish result => .finish result
  | .ask statement next => .ask (g statement) fun answer => (next answer).map g

section
variable {σ τ : Type} (compile : Query → Except Error σ) (process : List Row → List Row) (g : σ → τ)
open Conversation

theorem map_send (statement : σ) (next : Response → Conversation σ) :
    (send statement next).map g = send (g statement) fun response => (next response).map g := by
  simp only [send, Conversation.map]
  congr 1
  funext answer
  cases answer <;> rfl

theorem map_say (compiled : Except Error σ) (next : Response → Conversation σ) :
    (say compiled next).map g = say (compiled.map g) fun response => (next response).map g := by
  cases compiled with
  | error error => rfl
  | ok statement => exact map_send g statement next

theorem map_readBack (query : Query) (filter : Option (Filters Json)) (next : Row → Conversation σ) :
    (query.readBack compile process filter next).map g =
      query.readBack (fun query => (compile query).map g) process filter fun row =>
        (next row).map g := by
  cases filter with
  | none => rfl
  | some filter => exact map_say g _ _

/-- A conversation does not look at its statements. -/
theorem map_converse (query : Query) (dialect : Dialect) :
    (query.converse compile process dialect).map g =
      query.converse (fun query => (compile query).map g) process dialect := by
  have emulated : (query.emulated compile process dialect).map g =
      query.emulated (fun query => (compile query).map g) process dialect := by
    unfold Query.emulated
    cases compiled : compile query with
    | error error => simp only [Except.map, compiled, Conversation.map]
    | ok write =>
      have mapped : (compile query).map g = .ok (g write) := by rw [compiled]; rfl
      simp only [mapped]
      split
      · simp only [map_readBack, map_send, Conversation.map]
      · simp only [map_readBack, map_send, Conversation.map]
  unfold Query.converse
  cases query.operation <;> simp only [map_say, Conversation.map]
  all_goals
    split
    · simp only [map_say, Conversation.map]
    · exact emulated

/-- In other words a conversation is held with the same answers. -/
theorem hold_map (conversation : Conversation σ) (script : List (Except Error Response)) :
    (conversation.map g).hold script =
      ((conversation.hold script).1.map g, (conversation.hold script).2) := by
  induction conversation generalizing script with
  | finish result => rfl
  | ask statement next ih => simp only [Conversation.map, hold, ih, List.map_cons]

end

/-- What a query asks a database is the text of what is planned. -/
theorem conversation_eq_map (query : Query) (dialect : Dialect) (cap : Nat)
    (process : List Row → List Row) :
    query.conversation dialect cap process =
      (query.converse (·.planned (.of dialect cap)) process dialect).map fun planned =>
        (Compiler.of dialect cap).write planned.1 planned.2 := by
  rw [map_converse]
  unfold Query.conversation
  congr 1
  funext query
  simp only [Compiler.compile, Query.planned]
  cases query.plan (Compiler.of dialect cap).dialect (Compiler.of dialect cap).rowCap
    (Compiler.of dialect cap).returning <;> rfl

namespace Engine
variable {engine : Engine}

def servePlanned (dialect : Dialect) (contents : engine.Contents) (planned : Operation × Statement) :
    Except Error Response × engine.Contents :=
  serve dialect contents planned.2

/-- A conversation with the server: its result, and the table behind it. -/
def converse (dialect : Dialect) (conversation : Conversation (Operation × Statement))
    (contents : engine.Contents) : Except Error Outcome × engine.Contents :=
  let run := conversation.run (servePlanned dialect) contents
  (run.result, run.state)

/-- A query carried out on the table. -/
def execute (dialect : Dialect) (cap : Nat) (query : Query) (contents : engine.Contents) :
    Except Error Outcome × engine.Contents :=
  converse dialect (query.converse (·.planned (.of dialect cap)) id dialect) contents

/-- The planned statements of a query in the order in which they are asked, with the answers of
the server. -/
def asked (dialect : Dialect) (cap : Nat) (query : Query) (contents : engine.Contents) :
    List (Turn (Operation × Statement)) :=
  ((query.converse (·.planned (.of dialect cap)) id dialect).run (servePlanned dialect) contents).turns

/-- A planned statement as it is sent. -/
def sent (dialect : Dialect) (cap : Nat) (turn : Turn (Operation × Statement)) : Compiled :=
  (Compiler.of dialect cap).write turn.statement.1 turn.statement.2

/-- With the answers of the server, the conversation of a query sends the planned statements
in their order, and its result is that of the query carried out on the table. -/
theorem hold_conversation (dialect : Dialect) (cap : Nat) (query : Query) (contents : engine.Contents) :
    (query.conversation dialect cap id).hold ((asked dialect cap query contents).map Turn.answer) =
      ((asked dialect cap query contents).map (sent dialect cap),
        (execute dialect cap query contents).1) := by
  obtain ⟨turns, result⟩ := Conversation.run_scripted (servePlanned dialect)
    (query.converse (·.planned (.of dialect cap)) id dialect) contents
  rw [conversation_eq_map, hold_map, Conversation.hold_eq_run]
  unfold asked execute converse
  rw [turns, result, List.map_map]
  rfl

/-- What an answer says of a written row. -/
def handedBack : Except Error Response → Except Error Outcome
  | .error error => .error error
  | .ok response => .ok (.row (response.rows.headD .empty))

section
variable {query : Query} {dialect : Dialect} {cap : Nat} {contents after last : engine.Contents}
  {operation : Operation} {write lookup : Statement} {filter : Filters Json}
  {next : Response → Conversation (Operation × Statement)}
open Conversation

theorem converse_error {error : Error} (served : serve dialect contents write = (.error error, after)) :
    converse dialect (send (operation, write) next) contents = (.error error, after) := by
  have answered : servePlanned dialect contents (operation, write) = _ := served
  unfold converse
  rw [run_send_error answered]

theorem converse_ok {response : Response}
    (served : serve dialect contents write = (.ok response, after)) :
    converse dialect (send (operation, write) next) contents =
      converse dialect (next response) after := by
  have answered : servePlanned dialect contents (operation, write) = _ := served
  unfold converse
  rw [run_send_ok answered]

/-- Without a plan nothing happens. -/
theorem execute_unplanned {error : Error}
    (unplanned : query.planned (.of dialect cap) = .error error)
    (operates : query.isTableOperation = false) :
    execute dialect cap query contents = (.error error, contents) := by
  unfold execute
  cases direct : query.isDirect dialect with
  | true =>
    obtain ⟨f, said⟩ := converse_direct (·.planned (.of dialect cap)) id operates direct
    rw [said, unplanned]
    rfl
  | false =>
    rw [converse_emulated id operates direct, Query.emulated, unplanned]
    rfl

/-- Where writes return their rows, the answer to the write is the result. -/
theorem execute_returning {answer : Except Error Response}
    (planned : query.planned (.of dialect cap) = .ok (operation, write))
    (writes : query.operation = .create ∨ query.operation = .update ∨ query.operation = .delete)
    (returns : dialect.returnsRows = true) (served : serve dialect contents write = (answer, after)) :
    execute dialect cap query contents = (handedBack answer, after) := by
  have said : query.converse (·.planned (.of dialect cap)) id dialect =
      send (operation, write) fun response => .finish (.ok (.row (response.rows.headD .empty))) := by
    unfold Query.converse
    rcases writes with operation | operation | operation <;>
      simp only [operation, returns, ↓reduceIte, planned, say, id_eq]
  unfold execute
  rw [said]
  cases answer with
  | error error => exact converse_error served
  | ok response => exact converse_ok served

/-- Where they do not, a create or an update is followed by the read of its row. -/
theorem said_write (planned : query.planned (.of dialect cap) = .ok (operation, write))
    (writes : query.operation = .create ∨ query.operation = .update)
    (silent : dialect.returnsRows = false) :
    query.converse (·.planned (.of dialect cap)) id dialect =
      send (operation, write) fun response =>
        query.readBack (·.planned (.of dialect cap)) id (query.identity? dialect response) fun row =>
          .finish (.ok (.row row)) := by
  have keeps : query.operation ≠ .delete := by
    rcases writes with operation | operation <;> simp [operation]
  have emulated : query.converse (·.planned (.of dialect cap)) id dialect =
      query.emulated (·.planned (.of dialect cap)) id dialect := by
    unfold Query.converse
    rcases writes with operation | operation <;> simp [operation, silent]
  rw [emulated, Query.emulated, planned]
  simp only [keeps, ↓reduceIte]

theorem execute_failed {error : Error}
    (planned : query.planned (.of dialect cap) = .ok (operation, write))
    (writes : query.operation = .create ∨ query.operation = .update)
    (silent : dialect.returnsRows = false)
    (served : serve dialect contents write = (.error error, after)) :
    execute dialect cap query contents = (.error error, after) := by
  unfold execute
  rw [said_write planned writes silent]
  exact converse_error served

theorem execute_readBack {response reply : Response}
    (planned : query.planned (.of dialect cap) = .ok (operation, write))
    (writes : query.operation = .create ∨ query.operation = .update)
    (silent : dialect.returnsRows = false)
    (served : serve dialect contents write = (.ok response, after))
    (identified : query.identity? dialect response = some filter)
    (looks : (query.lookup filter).planned (.of dialect cap) = .ok (.read, lookup))
    (read : serve dialect after lookup = (.ok reply, last)) :
    execute dialect cap query contents = (handedBack (.ok reply), last) := by
  unfold execute
  rw [said_write planned writes silent, converse_ok served, identified, Query.readBack, looks]
  exact converse_ok read

/-- A delete is behind the read of its row. -/
theorem execute_readBefore {response reply : Response}
    (planned : query.planned (.of dialect cap) = .ok (operation, write))
    (deletes : query.operation = .delete) (silent : dialect.returnsRows = false)
    (identified : query.idFilter? = some filter)
    (looks : (query.lookup filter).planned (.of dialect cap) = .ok (.read, lookup))
    (read : serve dialect contents lookup = (.ok reply, contents))
    (served : serve dialect contents write = (.ok response, after)) :
    execute dialect cap query contents = (handedBack (.ok reply), after) := by
  unfold execute
  have said : query.converse (·.planned (.of dialect cap)) id dialect =
      query.readBack (·.planned (.of dialect cap)) id (some filter) fun row =>
        send (operation, write) fun _ => .finish (.ok (.row row)) := by
    unfold Query.converse
    simp only [deletes, silent, Bool.false_eq_true, ↓reduceIte, Query.emulated, planned, identified]
  rw [said, Query.readBack, looks]
  exact (converse_ok read).trans (converse_ok served)

end

end Engine
end Polyquery
