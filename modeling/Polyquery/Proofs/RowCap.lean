import Polyquery.Proofs.Plans

/-! How many rows a read can return. Servers differ in what they store, in how they
match, judge, order and show rows; none of it matters for the bound, only the row
limits that a read states. Around joined tables the limit is the row cap, whatever
the query asks for. A read that joins nothing is limited by its page alone, and the
size of a page is up to the query: the row cap is put in only if none is asked for. -/
namespace Polyquery
open Sql

/-! ## Servers -/

/-- What a server stores, and what it makes of clauses. -/
structure Server where
  Row : Type
  rows : TableRef → List Row
  /-- The rows that one row becomes when a table is joined to it. -/
  matched : Join → Row → List Row
  meets : Condition → Row → Bool
  arranged : List SortKey → List Row → List Row
  shown : Projection → Row → Row
  arranged_perm : ∀ keys rows, (arranged keys rows).Perm rows

namespace Server
variable {server : Server}

/-- The clauses of a select on the rows of its source: joined, restricted, ordered,
and cut to the window. -/
def apply (server : Server) (clauses : Clauses) (rows : List server.Row) : List server.Row :=
  let joined := clauses.joins.foldl (fun rows join => rows.flatMap (server.matched join)) rows
  let met := joined.filter (server.meets clauses.condition)
  let behind := (server.arranged clauses.order met).drop (clauses.offset.getD 0)
  (clauses.limit.elim behind behind.take).map (server.shown clauses.projection)

/-- The rows of a select. -/
def evaluate (server : Server) : Select → List server.Row
  | .table source clauses => server.apply clauses (server.rows source)
  | .derived inner _ clauses => server.apply clauses (server.evaluate inner)

/-- A limit limits, whatever is joined. -/
theorem length_apply_of_limit {clauses : Clauses} {limit : Nat} (limited : clauses.limit = some limit)
    (rows : List server.Row) : (server.apply clauses rows).length ≤ limit := by
  simp only [apply, limited, Option.elim_some, List.length_map]
  exact List.length_take_le _ _

/-- Without joins there are never more rows than in the source. -/
theorem length_apply_of_alone {clauses : Clauses} (alone : clauses.joins = [])
    (rows : List server.Row) : (server.apply clauses rows).length ≤ rows.length := by
  have met : (rows.filter (server.meets clauses.condition)).length ≤ rows.length :=
    List.length_filter_le _ _
  have ordered := (server.arranged_perm clauses.order
    (rows.filter (server.meets clauses.condition))).length_eq
  simp only [apply, alone, List.foldl_nil, List.length_map]
  cases clauses.limit with
  | none =>
    rw [Option.elim_none, List.length_drop]
    omega
  | some limit =>
    rw [Option.elim_some, List.length_take, List.length_drop]
    omega

/-- The server on which each table has the same number of rows, each of which
matches one row of each joined table and meets no condition that asks for
anything. -/
def uniform (count : Nat) : Server where
  Row := Unit
  rows _ := List.replicate count ()
  matched _ row := [row]
  meets condition _ := condition.isEmpty
  arranged _ rows := rows
  shown _ row := row
  arranged_perm _ rows := .refl rows

end Server

/-! ## Limits -/

/-- The row limit that counts: that of the select, or that of its source if nothing is
joined to it. -/
def Sql.Select.rowLimit? : Select → Option Nat
  | .table _ clauses => clauses.limit
  | .derived inner _ clauses =>
    clauses.limit.orElse fun _ => if clauses.joins = [] then inner.rowLimit? else none

/-- No server returns more rows than the limit that counts. -/
theorem length_evaluate (server : Server) {select : Select} {limit : Nat}
    (limited : select.rowLimit? = some limit) : (server.evaluate select).length ≤ limit := by
  induction select with
  | table source clauses => exact Server.length_apply_of_limit limited _
  | derived inner label clauses ih =>
    rw [Select.rowLimit?] at limited
    cases own : clauses.limit with
    | some n =>
      rw [own] at limited
      cases limited
      exact Server.length_apply_of_limit own _
    | none =>
      rw [own, Option.orElse_none] at limited
      split at limited
      · next alone => exact Nat.le_trans (Server.length_apply_of_alone alone _) (ih limited)
      · cases limited

/-! ## Reads -/

/-- The most rows that a read returns: the size of the page that is asked for, and the
row cap if none is asked for or if tables are joined. -/
def Query.rowLimit (query : Query) (cap : Nat) : Nat :=
  if query.relationships.isEmpty then (query.paging.bind Paging.size?).getD cap else cap

section
variable {query : Query} {cap : Nat} {window : Window}

theorem limit_of_window {paging : Option Paging} (opened : Window.ofPaging paging cap = .ok window) :
    window.limit = (paging.bind Paging.size?).getD cap := by
  unfold Window.ofPaging at opened
  cases size : paging.bind Paging.size? with
  | none =>
    rw [size] at opened
    cases opened
    rfl
  | some limit =>
    rw [size] at opened
    cases page : paging.bind Paging.page with
    | none =>
      rw [page] at opened
      cases opened
      rfl
    | some number =>
      rw [page] at opened
      simp only at opened
      split at opened
      · cases opened
      · cases opened
        rfl

/-- The row limit stays under the cap exactly if tables are joined or no larger page
is asked for. -/
theorem rowLimit_le_iff :
    query.rowLimit cap ≤ cap ↔
      query.relationships ≠ [] ∨ ∀ size ∈ query.paging.bind Paging.size?, size ≤ cap := by
  unfold Query.rowLimit
  cases query.relationships with
  | nil => cases query.paging.bind Paging.size? <;> simp
  | cons edge rest => simp

theorem joins_of_alone {joins : List Join} (alone : query.relationships = [])
    (joined : query.joins = .ok joins) : joins = [] := by
  unfold Query.joins at joined
  rw [alone] at joined
  cases joined
  rfl

theorem rowLimit_read (dialect : Dialect) {joins : List Join}
    (opened : Window.ofPaging query.paging cap = .ok window) (joined : query.joins = .ok joins) :
    Select.rowLimit? (.derived (.table query.pageTable (query.pageClauses dialect window))
      (query.aliasOf query.tableName) (query.outerClauses dialect cap joins)) =
        some (query.rowLimit cap) := by
  unfold Query.rowLimit
  rw [Select.rowLimit?, ← limit_of_window opened]
  cases related : query.relationships with
  | nil =>
    rw [joins_of_alone related joined]
    simp [Query.outerClauses, related, Select.rowLimit?, Query.pageClauses]
  | cons edge rest => simp [Query.outerClauses, related]

/-- Without filters and joins, a page can be as full as it may be. -/
theorem length_uniform {dialect : Dialect} (alone : query.relationships = [])
    (unfiltered : query.filters = none) :
    ((Server.uniform (window.offset.getD 0 + window.limit)).evaluate
      (.derived (.table query.pageTable (query.pageClauses dialect window))
        (query.aliasOf query.tableName) (query.outerClauses dialect cap []))).length =
          window.limit := by
  have nothing (pass : Pass) : (query.condition dialect pass query.aliases).isEmpty = true := by
    rw [Query.condition, unfiltered]
    rfl
  simp [Server.evaluate, Server.apply, Server.uniform, Query.outerClauses, Query.pageClauses,
    nothing, alone]

end

/-- The row limit of a read is the row cap if tables are joined, and without joins the
size of the page that the query asks for. Every server keeps to it. So a read returns
no more rows than the row cap if tables are joined or no larger page is asked for;
without filters it does so on all servers only then. -/
theorem read_row_limit {compiler : Compiler} {query : Query} {compiled : Compiled}
    (reads : query.operation = .read) (compiles : compiler.compile query = .ok compiled) :
    ∃ read, query.plan compiler.dialect compiler.rowCap compiler.returning = .ok (.select read) ∧
      compiled = compiler.write .read (.select read) ∧
      read.rowLimit? = some (query.rowLimit compiler.rowCap) ∧
      (∀ server : Server, (server.evaluate read).length ≤ query.rowLimit compiler.rowCap) ∧
      (query.rowLimit compiler.rowCap ≤ compiler.rowCap ↔ query.relationships ≠ [] ∨
        ∀ size ∈ query.paging.bind Paging.size?, size ≤ compiler.rowCap) ∧
      (query.filters = none →
        ((∀ server : Server, (server.evaluate read).length ≤ compiler.rowCap) ↔
          query.relationships ≠ [] ∨
            ∀ size ∈ query.paging.bind Paging.size?, size ≤ compiler.rowCap)) := by
  obtain ⟨window, joins, _, opened, joined, rfl, planned, written⟩ := Query.read_ok reads compiles
  have limit := rowLimit_read compiler.dialect opened joined
  have bounded (server : Server) := length_evaluate server limit
  refine ⟨_, planned, written, limit, bounded, rowLimit_le_iff, fun unfiltered => ?_⟩
  rw [← rowLimit_le_iff]
  constructor
  · intro capped
    by_cases alone : query.relationships = []
    · have full := capped (.uniform (window.offset.getD 0 + window.limit))
      rw [joins_of_alone alone joined, length_uniform alone unfiltered, limit_of_window opened] at full
      rwa [Query.rowLimit, alone, List.isEmpty_nil, if_pos rfl]
    · exact rowLimit_le_iff.2 (.inl alone)
  · intro under server
    exact Nat.le_trans (bounded server) under

/-- A hundred persons to a page. -/
def hundredPersons : Query :=
  { Query.plain "persons" .read with paging := some ⟨none, some 100⟩ }

theorem hundred_persons_limited :
    hundredPersons.operation = .read ∧ hundredPersons.filters = none ∧
      ∃ compiled, (Compiler.of .oracle 2).compile hundredPersons = .ok compiled ∧
        ∃ read, compiled = (Compiler.of .oracle 2).write .read (.select read) ∧
          read.rowLimit? = some 100 ∧ (∀ server : Server, (server.evaluate read).length ≤ 100) ∧
          ¬ ∀ server : Server, (server.evaluate read).length ≤ 2 := by
  have compiles : (Compiler.of .oracle 2).compile hundredPersons = .ok _ := rfl
  obtain ⟨read, _, written, limit, bounded, _, capped⟩ := read_row_limit rfl compiles
  refine ⟨rfl, rfl, _, compiles, read, written, limit, bounded, fun claimed => ?_⟩
  have small := (capped rfl).1 claimed
  revert small
  decide

/-- The row cap is not kept by every read: a page of a hundred is read whole, and the
row cap of two is nowhere in the text. -/
theorem hundred_persons_uncapped :
    (∃ compiled, (Compiler.of .postgres 2).compile hundredPersons = .ok compiled ∧
      compiled.text = "SELECT * FROM (SELECT * FROM \"persons\" LIMIT 100) AS \"persons\"") ∧
    ¬ ∀ (compiler : Compiler) (query : Query) (compiled : Compiled), 0 < compiler.rowCap →
      query.operation = .read → compiler.compile query = .ok compiled →
      ∃ read, query.plan compiler.dialect compiler.rowCap compiler.returning = .ok (.select read) ∧
        ∀ server : Server, (server.evaluate read).length ≤ compiler.rowCap := by
  refine ⟨⟨_, rfl, by decide +kernel⟩, fun claimed => ?_⟩
  obtain ⟨read, planned, capped⟩ := claimed (.of .postgres 2) hundredPersons _ (by decide) rfl rfl
  cases planned
  have full := capped (.uniform 100)
  revert full
  decide

end Polyquery
