import Polyquery.Proofs.ReadBack

/-! What a run sees of the rows that it is answered with. Two executors look alike if they
report the same errors and keys, and rows that are the same once they are processed. A run
cannot tell them apart, with one exception: where the key of a created row is selected as a
row of its own, it is taken from that row as it came. -/
namespace Polyquery

/-! ## Answers that look alike -/

/-- What is seen of an answer: its error, or its rows once they are processed and the key
that the driver reports. -/
def seen (process : List Row → List Row) (answer : Except Error Response) :
    Except Error (List Row × Option Value) :=
  answer.map fun response => (process response.rows, response.lastKey)

/-- Answers that look alike are one error, or two responses of which the same is seen. -/
theorem cases_of_seen {process : List Row → List Row} {answer twin : Except Error Response}
    (alike : seen process answer = seen process twin) :
    (∃ error, answer = .error error ∧ twin = .error error) ∨
      ∃ response other, answer = .ok response ∧ twin = .ok other ∧
        process response.rows = process other.rows ∧ response.lastKey = other.lastKey := by
  cases answer with
  | error error =>
    cases twin with
    | error failure => cases alike; exact .inl ⟨error, rfl, rfl⟩
    | ok other => cases alike
  | ok response =>
    cases twin with
    | error failure => cases alike
    | ok other =>
      obtain ⟨rows, key⟩ := Prod.mk.inj (Except.ok.inj alike)
      exact .inr ⟨response, other, rfl, rfl, rows, key⟩

/-- Two executors that look alike in related states, and are related again behind every
statement that both of them answer. -/
structure LookAlike {σ S T : Type} (process : List Row → List Row)
    (serve : S → σ → Except Error Response × S) (other : T → σ → Except Error Response × T)
    (related : S → T → Prop) : Prop where
  seen : ∀ state twin, related state twin → ∀ statement,
    seen process (serve state statement).1 = seen process (other twin statement).1
  stay : ∀ state twin, related state twin → ∀ statement,
    related (serve state statement).2 (other twin statement).2

/-- Two runs in which the same statements are issued, with the same result. -/
structure Run.Matches {σ S T : Type} (run : Run σ S) (twin : Run σ T) : Prop where
  statements : run.turns.map Turn.statement = twin.turns.map Turn.statement
  result : run.result = twin.result

/-- A conversation that goes on in the same way behind answers that look alike. -/
inductive Conversation.SeesThrough {σ : Type} (process : List Row → List Row) :
    Conversation σ → Prop where
  | finish (result : Except Error Outcome) : SeesThrough process (.finish result)
  | ask {statement : σ} {next : Except Error Response → Conversation σ}
    (same : ∀ answer twin, Polyquery.seen process answer = Polyquery.seen process twin → next answer = next twin)
    (behind : ∀ answer, SeesThrough process (next answer)) :
    SeesThrough process (.ask statement next)

section
variable {σ S T : Type} {process : List Row → List Row}
  {serve : S → σ → Except Error Response × S} {other : T → σ → Except Error Response × T}
  {related : S → T → Prop}
open Conversation

/-- Runs that match behind a statement match with it. -/
theorem matches_ask {statement : σ} {next : Except Error Response → Conversation σ} {state : S} {twin : T}
    (same : next (serve state statement).1 = next (other twin statement).1)
    (behind : ((next (serve state statement).1).run serve (serve state statement).2).Matches
      ((next (serve state statement).1).run other (other twin statement).2)) :
    ((Conversation.ask statement next).run serve state).Matches
      ((Conversation.ask statement next).run other twin) := by
  constructor
  · simp only [Conversation.run, List.map_cons, ← same, behind.statements]
  · simp only [Conversation.run, ← same, behind.result]

/-- Executors that look alike are issued the same statements, with the same result. -/
theorem matches_of_seesThrough {conversation : Conversation σ}
    (through : conversation.SeesThrough process) (alike : LookAlike process serve other related)
    {state : S} {twin : T} (together : related state twin) :
    (conversation.run serve state).Matches (conversation.run other twin) := by
  induction through generalizing state twin with
  | finish result => exact ⟨rfl, rfl⟩
  | @ask statement next same behind ih =>
    apply matches_ask
    · exact same _ _ (alike.seen state twin together statement)
    · exact ih _ (alike.stay state twin together statement)

/-- Scripts that look alike, answer by answer, are executors that look alike. -/
theorem scripts_alike (process : List Row → List Row) :
    LookAlike process (scripted (σ := σ)) scripted
      fun script twin => script.map (seen process) = twin.map (seen process) where
  seen script twin same statement := by
    cases script with
    | nil =>
      cases twin with
      | nil => rfl
      | cons answer rest => cases same
    | cons answer rest =>
      cases twin with
      | nil => cases same
      | cons reply behind => exact (List.cons.inj same).1
  stay script twin same statement := by
    have rest := congrArg List.tail same
    rwa [← List.map_tail, ← List.map_tail] at rest

end

/-! ## Queries -/

/-- The queries that look into the rows of an answer as they come: creates in a table with a
key, where the key of the new row is selected. -/
def Query.Peeks (query : Query) (dialect : Dialect) : Prop :=
  query.operation = .create ∧ dialect.generatedKey = .selected ∧
    (query.table?.bind Table.key?).isSome

section
variable {σ : Type} {compile : Query → Except Error σ} {process : List Row → List Row} {query : Query}
  {dialect : Dialect}
open Conversation

theorem seesThrough_send {statement : σ} {next : Response → Conversation σ}
    (same : ∀ response twin : Response, process response.rows = process twin.rows →
      response.lastKey = twin.lastKey → next response = next twin)
    (behind : ∀ response, (next response).SeesThrough process) :
    (send statement next).SeesThrough process := by
  apply SeesThrough.ask
  · intro answer twin alike
    rcases cases_of_seen alike with ⟨error, rfl, rfl⟩ | ⟨response, other, rfl, rfl, rows, key⟩
    · rfl
    · exact same response other rows key
  · intro answer
    cases answer with
    | error error => exact .finish _
    | ok response => exact behind response

theorem seesThrough_say {compiled : Except Error σ} {next : Response → Conversation σ}
    (same : ∀ response twin : Response, process response.rows = process twin.rows →
      response.lastKey = twin.lastKey → next response = next twin)
    (behind : ∀ response, (next response).SeesThrough process) :
    (say compiled next).SeesThrough process := by
  cases compiled with
  | error error => exact .finish _
  | ok statement => exact seesThrough_send same behind

theorem seesThrough_readBack (compile : Query → Except Error σ) (query : Query)
    (filter : Option (Filters Json)) {next : Row → Conversation σ}
    (behind : ∀ row, (next row).SeesThrough process) :
    (query.readBack compile process filter next).SeesThrough process := by
  cases filter with
  | none => exact behind .empty
  | some filter =>
    apply seesThrough_say
    · intro response twin rows _
      rw [rows]
    · intro response
      exact behind _

/-- Answers that report the same key identify the same row. -/
theorem identity_of_generated {response twin : Response}
    (same : Query.generatedKey? dialect response = Query.generatedKey? dialect twin) :
    query.identity? dialect response = query.identity? dialect twin := by
  simp only [Query.identity?, same]

/-- What identifies a written row is seen, unless the query looks into the rows. -/
theorem identity_of_seen (unpeeking : ¬ query.Peeks dialect) {response twin : Response}
    (key : response.lastKey = twin.lastKey) :
    query.identity? dialect response = query.identity? dialect twin := by
  by_cases creates : query.operation = .create
  · cases keyed : query.table?.bind Table.key? with
    | none => simp only [Query.identity?, keyed, Option.bind_none]
    | some name =>
      have unselected : dialect.generatedKey ≠ .selected := by
        intro selected
        exact unpeeking ⟨creates, selected, by rw [keyed]; rfl⟩
      apply identity_of_generated
      unfold Query.generatedKey?
      cases source : dialect.generatedKey with
      | reported => simp only [key]
      | selected => exact absurd source unselected
      | absent => rfl
  · simp only [Query.identity?, creates, ↓reduceIte]

/-- The course of an emulated write behind the write itself. -/
theorem seesThrough_behind_write (response : Response) :
    (query.readBack compile process (query.identity? dialect response) fun row =>
      (.finish (.ok (.row row)) : Conversation σ)).SeesThrough process :=
  seesThrough_readBack compile query _ fun _ => .finish _

theorem seesThrough_emulated (unpeeking : ¬ query.Peeks dialect) :
    (query.emulated compile process dialect).SeesThrough process := by
  unfold Query.emulated
  cases compile query with
  | error error => exact .finish _
  | ok write =>
    by_cases deletes : query.operation = .delete
    · simp only [deletes, ↓reduceIte]
      apply seesThrough_readBack
      intro row
      exact seesThrough_send (fun _ _ _ _ => rfl) fun _ => .finish _
    · simp only [deletes, ↓reduceIte]
      apply seesThrough_send
      · intro response twin _ key
        rw [identity_of_seen unpeeking key]
      · exact seesThrough_behind_write

/-- A query that does not look into the rows sees answers that look alike as the same. -/
theorem seesThrough_converse (unpeeking : ¬ query.Peeks dialect) :
    (query.converse compile process dialect).SeesThrough process := by
  unfold Query.converse
  cases query.operation with
  | read =>
    apply seesThrough_say
    · intro response twin rows _
      rw [rows]
    · exact fun _ => .finish _
  | bulkCreate => exact seesThrough_say (fun _ _ _ _ => rfl) fun _ => .finish _
  | create | update | delete =>
    by_cases returns : dialect.returnsRows = true
    · simp only [returns, ↓reduceIte]
      apply seesThrough_say
      · intro response twin rows _
        rw [rows]
      · exact fun _ => .finish _
    · simp only [returns]
      exact seesThrough_emulated unpeeking
  | createTable | updateTable | deleteTable => exact .finish _

end

/-- A query that looks into the rows is a write with the read of its row behind it. -/
theorem converse_of_peeks {σ : Type} (compile : Query → Except Error σ) (process : List Row → List Row)
    {query : Query} {dialect : Dialect} (peeks : query.Peeks dialect) :
    query.converse compile process dialect = Conversation.say (compile query) fun response =>
      query.readBack compile process (query.identity? dialect response) fun row =>
        .finish (.ok (.row row)) := by
  obtain ⟨creates, selected, _⟩ := peeks
  have silent : dialect.returnsRows = false := by
    cases dialect with
    | sqlServer => rfl
    | _ => cases selected
  unfold Query.converse Query.emulated
  cases compile query <;> simp [creates, silent, Conversation.say]

/-- Rows are seen through the process that they are handed to. Two executors that report the
same errors and keys, and rows that are the same once they are processed, are issued the same
statements by a query, and it comes to the same result. Only a create for which the key of
the new row is selected looks at a row before: there, the answers to the write must also
have the same key in their first rows. -/
theorem rows_are_seen_through_process (query : Query) (dialect : Dialect) (cap : Nat)
    (process : List Row → List Row) {S T : Type} (serve : S → Compiled → Except Error Response × S)
    (other : T → Compiled → Except Error Response × T) (related : S → T → Prop)
    (alike : LookAlike process serve other related) (start : S) (twin : T)
    (together : related start twin)
    (unmasked : query.Peeks dialect → ∀ write, (Compiler.of dialect cap).compile query = .ok write →
      (serve start write).1.map (Query.generatedKey? dialect) =
        (other twin write).1.map (Query.generatedKey? dialect)) :
    ((query.conversation dialect cap process).run serve start).Matches
      ((query.conversation dialect cap process).run other twin) := by
  unfold Query.conversation
  by_cases peeks : query.Peeks dialect
  · rw [converse_of_peeks _ _ peeks]
    cases compiles : (Compiler.of dialect cap).compile query with
    | error error => exact ⟨rfl, rfl⟩
    | ok write =>
      have answers := alike.seen start twin together write
      have keys := unmasked peeks write compiles
      rcases cases_of_seen answers with ⟨error, answer, reply⟩ | ⟨response, selected, answer, reply, _⟩
      · apply matches_ask
        · rw [answer, reply]
        · rw [answer]
          exact ⟨rfl, rfl⟩
      · rw [answer, reply] at keys
        apply matches_ask
        · rw [answer, reply]
          simp only [identity_of_generated (Except.ok.inj keys)]
        · rw [answer]
          exact matches_of_seesThrough (seesThrough_behind_write response) alike
            (alike.stay start twin together write)
  · exact matches_of_seesThrough (seesThrough_converse peeks) alike together

/-- A new person who is known to the database only by the number that it gives out. -/
def unnumberedPerson : Query :=
  { Query.plain "persons" .create with
    details := some ⟨some ⟨"persons", ["id"], .empty⟩⟩
    body := some (.row (.ofList [("name", .string "Ann")])) }

/-- Rows without the cells that are not to be seen. -/
def withoutWages (rows : List Row) : List Row :=
  rows.map fun row => .ofList (row.entries.filter fun cell => cell.1 != "wage")

/-- The answers to a create of which the wage is not to be seen. -/
def answersWithWage (wage : String) : List (Except Error Response) :=
  [.ok ⟨[.ofList [("id", .number (.ofInt64 9)), ("wage", .string wage)]], none⟩,
    .ok ⟨[.ofList [("name", .string "Ann"), ("wage", .string wage)]], none⟩]

theorem wage_is_not_seen :
    unnumberedPerson.Peeks .sqlServer ∧ answersWithWage "12" ≠ answersWithWage "34" ∧
      let run wage := (unnumberedPerson.conversation .sqlServer 5000 withoutWages).run
        Conversation.scripted (answersWithWage wage)
      (run "12").Matches (run "34") ∧
        (run "34").result = .ok (.row (.ofList [("name", .string "Ann")])) := by
  have together : (answersWithWage "12").map (seen withoutWages) =
      (answersWithWage "34").map (seen withoutWages) := by decide +kernel
  refine ⟨⟨rfl, rfl, rfl⟩, by decide +kernel, ?_, by decide +kernel⟩
  exact rows_are_seen_through_process unnumberedPerson .sqlServer 5000 withoutWages
    Conversation.scripted Conversation.scripted _ (scripts_alike withoutWages) _ _ together
    fun _ _ _ => rfl

/-- The key of a new row is looked up although no row is to be seen. -/
theorem selected_key_is_not_processed :
    (∃ insert lookup, (unnumberedPerson.conversation .sqlServer 5000 fun _ => []).run
        Conversation.scripted [.ok ⟨[.ofList [("id", .number (.ofInt64 9))]], none⟩] =
          ⟨[⟨insert, .ok ⟨[.ofList [("id", .number (.ofInt64 9))]], none⟩⟩, ⟨lookup, .ok .empty⟩],
            .ok (.row .empty), []⟩ ∧ lookup.bindings = [.int 9]) ∧
    ¬ ∀ (query : Query) (dialect : Dialect) (cap : Nat) (process : List Row → List Row)
        (S T : Type) (serve : S → Compiled → Except Error Response × S)
        (other : T → Compiled → Except Error Response × T) (related : S → T → Prop) (start : S) (twin : T),
      LookAlike process serve other related → related start twin →
      ((query.conversation dialect cap process).run serve start).Matches
        ((query.conversation dialect cap process).run other twin) := by
  refine ⟨⟨_, _, by rfl, by decide +kernel⟩, fun claimed => ?_⟩
  have matched := claimed unnumberedPerson .sqlServer 5000 (fun _ => []) _ _ Conversation.scripted
    Conversation.scripted _ [.ok ⟨[.ofList [("id", .number (.ofInt64 9))]], none⟩] [.ok .empty]
    (scripts_alike fun _ => []) rfl
  have lengths := congrArg List.length matched.statements
  revert lengths
  decide +kernel

end Polyquery
