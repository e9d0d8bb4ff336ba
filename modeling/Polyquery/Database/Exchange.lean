import Polyquery.Database.Cell
import Polyquery.Execute.Conversation

/-! Exchanges with a database server: what the server replies to a statement and
what the reply says to the query that is run. -/
namespace Polyquery.Database

/-- The reply of a server to one statement. -/
inductive Reply where
  /-- A result set: names and types of the columns, and the cells as text. -/
  | results (columns : List (String × String)) (rows : List (List (Option String)))
  /-- The key generated by a write, zero for none. -/
  | done (lastKey : Nat)
  | refused (text : String)

/-- One row of a result set, in the order of its columns. Of columns with one
name the last gives the value and the first the place. -/
def Server.row (server : Server) (columns : List (String × String)) (cells : List (Option String)) : Row :=
  Record.ofList ((columns.zip cells).map fun ((name, type), cell) =>
    (name, cell.elim .null fun text => (server.cellType type).read text))

/-- How a server words the refusal of a statement. -/
def Server.refusal : Server → String → String
  | .postgres, text => "error returned from database: " ++ text
  | .mysql, text => "error returned from database: 1064 (42000): " ++ text

/-- The generated key that a driver reports: only MySQL has one, and only if it
is positive and fits 64 signed bits. -/
def Server.lastKey? : Server → Nat → Option Value
  | .mysql, n => if 0 < n ∧ n < 0x8000000000000000 then some (.int (.ofNat n)) else none
  | .postgres, _ => none

/-- What a reply says: a statement that yields rows takes the rows, any other
takes only the key. -/
def Server.response (server : Server) (yieldsRows : Bool) : Reply → Except Error Response
  | .refused text => .error (.execution (server.refusal text))
  | .results columns rows =>
    .ok (if yieldsRows then ⟨rows.map (server.row columns), none⟩ else .empty)
  | .done lastKey => .ok (if yieldsRows then .empty else ⟨[], server.lastKey? lastKey⟩)

/-- What the server saw: a statement, and whether it was refused. -/
structure Received where
  statement : Compiled
  wasRefused : Bool

/-- A conversation held with a server that gives the replies one after the
other, and then empty ones. -/
def Server.hold (server : Server) :
    Conversation Compiled → List Reply → List Received × Except Error Outcome
  | .finish result, _ => ([], result)
  | .ask statement next, replies =>
    let reply := replies.head?.getD (.done 0)
    let refused := match reply with
      | .refused _ => true
      | _ => false
    let (received, result) :=
      server.hold (next (server.response statement.yieldsRows reply)) replies.tail
    (⟨statement, refused⟩ :: received, result)

/-- The server that runs statements of a dialect, where there is a driver. -/
def ofDialect? : Dialect → Option Server
  | .postgres => some .postgres
  | .mysql | .mariadb => some .mysql
  | .sqlServer | .oracle => none

end Polyquery.Database
