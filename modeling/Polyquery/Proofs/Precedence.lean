import Polyquery.Proofs.Scanning
import Polyquery.Sql.Condition

/-! Conditions the way SQL reads them. `NOT` binds tighter than `AND`, and `AND`
tighter than `OR`; the `AND` of a `BETWEEN` belongs to the `BETWEEN`. The reader
takes one lexeme after the other, knows nothing of how the text was made, and
keeps on a stack what it cannot combine yet. -/
namespace Polyquery.Sql

/-! ## Truth in three values -/

/-- The truth values of SQL. -/
inductive Truth where
  | no
  | unknown
  | yes
  deriving DecidableEq

def Truth.not : Truth → Truth
  | .no => .yes
  | .unknown => .unknown
  | .yes => .no

namespace Connective

/-- What two parts mean together. -/
def combine : Connective → Truth → Truth → Truth
  | .and, .no, _ | .and, _, .no => .no
  | .and, .yes, b => b
  | .and, a, .yes => a
  | .or, .yes, _ | .or, _, .yes => .yes
  | .or, .no, b => b
  | .or, a, .no => a
  | _, .unknown, .unknown => .unknown

/-- What no parts mean together. -/
def unit : Connective → Truth
  | .and => .yes
  | .or => .no

@[simp] theorem combine_unit (op : Connective) (a : Truth) : op.combine a op.unit = a := by
  cases op <;> cases a <;> rfl

theorem combine_assoc (op : Connective) (a b c : Truth) :
    op.combine (op.combine a b) c = op.combine a (op.combine b c) := by
  cases op <;> cases a <;> cases b <;> cases c <;> rfl

end Connective

/-! ## Formulas -/

/-- A condition as a reader understands it. A leaf is left as its lexemes. -/
inductive Formula where
  | leaf (lexemes : List Lexeme)
  | not (inner : Formula)
  | join (op : Connective) (left right : Formula)
  deriving DecidableEq

namespace Formula

/-- The leaves, from left to right. -/
def leaves : Formula → List (List Lexeme)
  | .leaf lexemes => [lexemes]
  | .not inner => inner.leaves
  | .join _ left right => left.leaves ++ right.leaves

/-- The truth value under an assignment to the leaves, which are counted from the
given number on. -/
def value (assign : Nat → Truth) : Nat → Formula → Truth
  | first, .leaf _ => assign first
  | first, .not inner => (inner.value assign first).not
  | first, .join op left right =>
    op.combine (left.value assign first) (right.value assign (first + left.leaves.length))

end Formula

/-! ## The reader -/

/-- The higher the strength, the tighter a connective binds. -/
def Connective.strength : Connective → Nat
  | .and => 2
  | .or => 1

/-- What waits for an operand on its right. -/
inductive Pending where
  | negation
  | operand (left : Formula) (op : Connective)
  | parenthesis

/-- Give an operand to everything that waits for it and binds at least that
tightly; a parenthesis waits for its end. -/
def settle (strength : Nat) : List Pending → Formula → List Pending × Formula
  | .negation :: rest, formula => settle strength rest (.not formula)
  | .operand left op :: rest, formula =>
    if strength ≤ op.strength then settle strength rest (.join op left formula)
    else (.operand left op :: rest, formula)
  | .parenthesis :: rest, formula => (.parenthesis :: rest, formula)
  | [], formula => ([], formula)

/-- The beginning of a leaf: its lexemes, how many parentheses are open in it,
and whether a `BETWEEN` still waits for its `AND`. -/
structure Beginning where
  lexemes : List Lexeme
  depth : Nat
  between : Bool

namespace Beginning

/-- Whether a lexeme stands behind the leaf and not in it. -/
def endsAt (beginning : Beginning) : Lexeme → Bool
  | .mark .close | .word .or => beginning.depth == 0
  | .word .and => beginning.depth == 0 && !beginning.between
  | _ => false

/-- The beginning with one more lexeme. -/
def add (beginning : Beginning) (lexeme : Lexeme) : Beginning where
  lexemes := beginning.lexemes ++ [lexeme]
  depth := match lexeme with
    | .mark .open => beginning.depth + 1
    | .mark .close => beginning.depth - 1
    | _ => beginning.depth
  between := match lexeme with
    | .word .between => beginning.between || beginning.depth == 0
    | .word .and => beginning.between && beginning.depth != 0
    | _ => beginning.between

end Beginning

/-- Where a reader is: in front of an operand, in a leaf, or behind an operand. -/
inductive Position where
  | operand (stack : List Pending)
  | leaf (stack : List Pending) (beginning : Beginning)
  | behind (stack : List Pending) (formula : Formula)

/-- The operand in front of a position, if there is a complete one. -/
def Position.complete : Position → Option (List Pending × Formula)
  | .operand _ => none
  | .leaf stack ⟨lexemes, 0, false⟩ => some (stack, .leaf lexemes)
  | .leaf _ _ => none
  | .behind stack formula => some (stack, formula)

/-- Go on behind an operand. -/
def resume (stack : List Pending) (formula : Formula) : Lexeme → Option Position
  | .word .and => connect .and
  | .word .or => connect .or
  | .mark .close => match settle 0 stack formula with
    | (.parenthesis :: rest, inner) => some (.behind rest inner)
    | _ => none
  | _ => none
where
  connect (op : Connective) : Option Position :=
    let (rest, left) := settle op.strength stack formula
    some (.operand (.operand left op :: rest))

/-- Take one lexeme. -/
def step : Position → Lexeme → Option Position
  | .operand stack, .word .not => some (.operand (.negation :: stack))
  | .operand stack, .mark .open => some (.operand (.parenthesis :: stack))
  | .operand _, .word .and | .operand _, .word .or | .operand _, .mark .close => none
  | .operand stack, lexeme => some (.leaf stack ⟨[lexeme], 0, false⟩)
  | .leaf stack beginning, lexeme =>
    if beginning.endsAt lexeme then
      (Position.leaf stack beginning).complete.bind fun (stack, formula) =>
        resume stack formula lexeme
    else some (.leaf stack (beginning.add lexeme))
  | .behind stack formula, lexeme => resume stack formula lexeme

/-- Take lexemes, one after the other. -/
def run (position : Position) (lexemes : List Lexeme) : Option Position := lexemes.foldlM step position

/-- The formula behind the last lexeme; nothing if an operand or a closing
parenthesis is missing. -/
def finish (position : Position) : Option Formula :=
  position.complete.bind fun (stack, formula) =>
    match settle 0 stack formula with
    | ([], whole) => some whole
    | _ => none

/-- What the lexemes of a condition say. -/
def parse (lexemes : List Lexeme) : Option Formula := (run (.operand []) lexemes).bind finish

/-- `NOT a = b OR c BETWEEN d AND e AND f`. -/
example :
    parse [.word .not, .name "a", .mark .equal, .name "b", .word .or, .name "c", .word .between,
      .name "d", .word .and, .name "e", .word .and, .name "f"] =
    some (.join .or (.not (.leaf [.name "a", .mark .equal, .name "b"]))
      (.join .and (.leaf [.name "c", .word .between, .name "d", .word .and, .name "e"])
        (.leaf [.name "f"]))) := by rfl

/-! ## What the reader understands -/

variable {lexemes more : List Lexeme} {formula : Formula} {position : Position}
  {stack ahead base : List Pending}

theorem run_append (position : Position) (lexemes more : List Lexeme) :
    run position (lexemes ++ more) = (run position lexemes).bind fun next => run next more := by
  simp [run, List.foldlM_append, bind]

theorem run_cons (position : Position) (lexeme : Lexeme) (more : List Lexeme) :
    run position (lexeme :: more) = (step position lexeme).bind fun next => run next more := by
  simp [run, List.foldlM_cons, bind]

/-- A stack on which nothing waits for an operand but the end of the text or of a
parenthesis. -/
def Closed (stack : List Pending) : Prop := ∀ strength formula, settle strength stack formula = (stack, formula)

theorem closed_nil : Closed [] := fun _ _ => rfl

theorem closed_parenthesis : Closed (.parenthesis :: stack) := fun _ _ => rfl

/-- In front of any stack the lexemes are read as one operand: whatever is
settled behind them is settled with this formula. -/
def Reads (lexemes : List Lexeme) (formula : Formula) : Prop :=
  ∀ stack, ∃ position ahead operand, run (.operand stack) lexemes = some position ∧
    position.complete = some (ahead, operand) ∧
    ∀ strength, settle strength ahead operand = settle strength stack formula

/-- Behind a closed stack the lexemes are read as this formula. -/
def ReadsWhole (lexemes : List Lexeme) (formula : Formula) : Prop :=
  ∀ base, Closed base → ∃ position ahead operand, run (.operand base) lexemes = some position ∧
    position.complete = some (ahead, operand) ∧ settle 0 ahead operand = (base, formula)

/-- What is in front of the position and binds at least as tightly as the
connective is this formula, and behind it is a closed stack. -/
def Joined (op : Connective) (position : Position) (base : List Pending) (formula : Formula) : Prop :=
  ∃ ahead operand, position.complete = some (ahead, operand) ∧
    ∀ strength, strength ≤ op.strength → settle strength ahead operand = (base, formula)

/-- Behind a complete operand, a connective or a closing parenthesis ends it. -/
theorem step_complete {operand : Formula} {lexeme : Lexeme}
    (complete : position.complete = some (ahead, operand))
    (ends : lexeme = .word .and ∨ lexeme = .word .or ∨ lexeme = .mark .close) :
    step position lexeme = resume ahead operand lexeme := by
  cases position with
  | operand stack => cases complete
  | behind stack formula =>
    cases complete
    rfl
  | leaf stack beginning =>
    obtain ⟨seen, depth, between⟩ := beginning
    cases depth with
    | succ depth => cases complete
    | zero =>
      cases between with
      | true => cases complete
      | false =>
        cases complete
        rcases ends with rfl | rfl | rfl <;> rfl

theorem step_connective {operand : Formula} {op : Connective}
    (complete : position.complete = some (ahead, operand))
    (settled : settle op.strength ahead operand = (base, formula)) :
    step position (.word op.word) = some (.operand (.operand formula op :: base)) := by
  cases op with
  | and =>
    rw [Connective.word, step_complete complete (.inl rfl)]
    simp only [resume, resume.connect, settled]
  | or =>
    rw [Connective.word, step_complete complete (.inr (.inl rfl))]
    simp only [resume, resume.connect, settled]

theorem reads_leaf
    (leaf : ∀ stack, run (.operand stack) lexemes = some (.leaf stack ⟨lexemes, 0, false⟩)) :
    Reads lexemes (.leaf lexemes) :=
  fun stack => ⟨_, stack, .leaf lexemes, leaf stack, rfl, fun _ => rfl⟩

/-- A negation applies to the one operand behind it. -/
theorem reads_not (reads : Reads lexemes formula) : Reads (.word .not :: lexemes) (.not formula) := by
  intro stack
  obtain ⟨position, ahead, operand, reached, complete, settled⟩ := reads (.negation :: stack)
  refine ⟨position, ahead, operand, ?_, complete, settled⟩
  rw [run_cons]
  exact reached

theorem Reads.whole (reads : Reads lexemes formula) : ReadsWhole lexemes formula := by
  intro base closed
  obtain ⟨position, ahead, operand, reached, complete, settled⟩ := reads base
  exact ⟨position, ahead, operand, reached, complete, by rw [settled, closed]⟩

/-- In parentheses, a whole formula is one operand. -/
theorem reads_parenthesized (reads : ReadsWhole lexemes formula) :
    Reads (.mark .open :: lexemes ++ [.mark .close]) formula := by
  intro stack
  obtain ⟨position, ahead, operand, reached, complete, settled⟩ :=
    reads (.parenthesis :: stack) closed_parenthesis
  refine ⟨.behind stack formula, stack, formula, ?_, rfl, fun _ => rfl⟩
  have closes : step position (.mark .close) = some (.behind stack formula) := by
    rw [step_complete complete (.inr (.inr rfl))]
    simp only [resume, settled]
  have opened : run (.operand stack) (.mark .open :: lexemes) = some position := by
    rw [run_cons]
    exact reached
  rw [run_append, opened, Option.bind_some, run_cons, closes]
  rfl

theorem parse_of_readsWhole (reads : ReadsWhole lexemes formula) : parse lexemes = some formula := by
  obtain ⟨position, ahead, operand, reached, complete, settled⟩ := reads [] closed_nil
  simp [parse, reached, finish, complete, settled]

theorem whole_of_joined (op : Connective)
    (reads : ∀ base, Closed base →
      ∃ position, run (.operand base) lexemes = some position ∧ Joined op position base formula) :
    ReadsWhole lexemes formula := by
  intro base closed
  obtain ⟨position, reached, ahead, operand, complete, settled⟩ := reads base closed
  exact ⟨position, ahead, operand, reached, complete, settled 0 (Nat.zero_le _)⟩

/-- The first part of several. -/
theorem joined_first (op : Connective) (closed : Closed base) (reads : Reads lexemes formula) :
    ∃ position, run (.operand base) lexemes = some position ∧ Joined op position base formula := by
  obtain ⟨position, ahead, operand, reached, complete, settled⟩ := reads base
  exact ⟨position, reached, ahead, operand, complete, fun strength _ => by rw [settled, closed]⟩

/-- One more part under the same connective. -/
theorem joined_next {op : Connective} {left : Formula} (closed : Closed base)
    (joined : Joined op position base left) (reads : Reads lexemes formula) :
    ∃ next, run position (.word op.word :: lexemes) = some next ∧
      Joined op next base (.join op left formula) := by
  obtain ⟨ahead, operand, complete, settled⟩ := joined
  obtain ⟨next, ahead', operand', reached, complete', settled'⟩ := reads (.operand left op :: base)
  have taken := step_connective complete (settled op.strength (Nat.le_refl _))
  refine ⟨next, ?_, ahead', operand', complete', fun strength bound => ?_⟩
  · rw [run_cons, taken]
    exact reached
  · rw [settled', settle, if_pos bound, closed]

/-! ## Leaves -/

/-- Lexemes that mean nothing to the reader inside of a leaf. -/
def Lexeme.isPlain : Lexeme → Bool
  | .word .and | .word .or | .word .between | .mark .open | .mark .close => false
  | _ => true

/-- Inside of a leaf, the lexemes are taken as a part of it that leaves no
parenthesis and no `BETWEEN` open. -/
def Balanced (lexemes : List Lexeme) : Prop :=
  ∀ stack seen depth, run (.leaf stack ⟨seen, depth, false⟩) lexemes =
    some (.leaf stack ⟨seen ++ lexemes, depth, false⟩)

theorem Balanced.append (first : Balanced lexemes) (second : Balanced more) :
    Balanced (lexemes ++ more) := by
  intro stack seen depth
  rw [run_append, first, Option.bind_some, second, List.append_assoc]

theorem step_plain {seen : List Lexeme} {depth : Nat} {between : Bool} {lexeme : Lexeme}
    (plain : lexeme.isPlain = true) :
    step (.leaf stack ⟨seen, depth, between⟩) lexeme =
      some (.leaf stack ⟨seen ++ [lexeme], depth, between⟩) := by
  unfold Lexeme.isPlain at plain
  split at plain <;> simp_all [step, Beginning.endsAt, Beginning.add]

theorem balanced_plain (plain : ∀ lexeme ∈ lexemes, lexeme.isPlain = true) : Balanced lexemes := by
  intro stack seen depth
  induction lexemes generalizing seen with
  | nil => simp [run]
  | cons lexeme rest ih =>
    rw [run_cons, step_plain (plain lexeme (by simp)), Option.bind_some,
      ih fun other member => plain other (by simp [member])]
    simp

theorem balanced_parenthesized (inner : Balanced lexemes) :
    Balanced (.mark .open :: lexemes ++ [.mark .close]) := by
  intro stack seen depth
  have opened : run (.leaf stack ⟨seen, depth, false⟩) (.mark .open :: lexemes) =
      some (.leaf stack ⟨seen ++ [.mark .open] ++ lexemes, depth + 1, false⟩) := by
    rw [run_cons]
    exact inner stack _ (depth + 1)
  rw [run_append, opened, Option.bind_some, run_cons]
  simp [step, Beginning.endsAt, Beginning.add, run]

/-- A `BETWEEN` takes the next `AND` for itself. -/
theorem balanced_between {low high : Lexeme} (lowPlain : low.isPlain = true)
    (highPlain : high.isPlain = true) :
    Balanced [.word .between, low, .word .and, high] := by
  intro stack seen depth
  have taken (between : Bool) (seen : List Lexeme) {lexeme : Lexeme} (plain : lexeme.isPlain = true) :
      step (.leaf stack ⟨seen, depth, between⟩) lexeme =
        some (.leaf stack ⟨seen ++ [lexeme], depth, between⟩) := step_plain plain
  have opened : step (.leaf stack ⟨seen, depth, false⟩) (.word .between) =
      some (.leaf stack ⟨seen ++ [.word .between], depth, depth == 0⟩) := by
    simp [step, Beginning.endsAt, Beginning.add]
  have closed (seen : List Lexeme) : step (.leaf stack ⟨seen, depth, depth == 0⟩) (.word .and) =
      some (.leaf stack ⟨seen ++ [.word .and], depth, false⟩) := by
    by_cases outside : depth = 0 <;> simp [step, Beginning.endsAt, Beginning.add, outside]
  simp only [run_cons, opened, taken _ _ lowPlain, closed, taken _ _ highPlain, Option.bind_some]
  simp [run]

/-- A leaf begins with a plain lexeme, but not with a negation. -/
theorem reads_balanced {first : Lexeme} (plain : first.isPlain = true) (negates : first ≠ .word .not)
    (rest : Balanced lexemes) : Reads (first :: lexemes) (.leaf (first :: lexemes)) := by
  refine reads_leaf fun stack => ?_
  have begun : step (.operand stack) first = some (.leaf stack ⟨[first], 0, false⟩) := by
    unfold Lexeme.isPlain at plain
    split at plain <;> simp_all [step]
  rw [run_cons, begun, Option.bind_some, rest]
  rfl

end Polyquery.Sql
