import Polyquery.Text.Split

/-! Switches on a command line. An argument is a switch in its long form
(`--format json`, `--format=json`), a run of short ones (`-vd pg`), or a plain
word. Arguments are taken apart from left to right into marks, and a mark that
cannot be understood ends the line: what stands before it still counts. -/
namespace Polyquery.Command

/-- What follows a switch. -/
inductive Arity where
  /-- Nothing: the switch is on when it is there. -/
  | alone
  /-- A value, of those that are accepted. -/
  | value (accepts : String → Bool)

structure Switch where
  long : String
  short : Option Char
  arity : Arity

/-- What an argument turns out to be. -/
inductive Mark where
  /-- A switch by its long name, with its value; one that stands alone has the
  empty value. -/
  | switch (name value : String)
  | word (text : String)
  | misuse
  deriving DecidableEq

namespace Switch

/-- A switch that is given a value. -/
def taking (switch : Switch) (value : String) : Mark :=
  match switch.arity with
  | .alone => .misuse
  | .value accepts => if accepts value then .switch switch.long value else .misuse

/-- An argument that can stand as the value of the switch before it. A single
dash is a value, anything longer behind a dash is a switch. -/
def isOperand (argument : String) : Bool :=
  match argument.toList with
  | '-' :: _ :: _ => false
  | _ => true

/-- A switch that finds its value in the next argument. -/
def takingNext (switch : Switch) : List String → List Mark × List String
  | [] => ([.misuse], [])
  | next :: rest => if isOperand next then ([switch.taking next], rest) else ([.misuse], [])

/-- A switch in its long form, with the value behind an equals sign if there is
one. -/
def readLong (known : List Switch) (text : List Char) (rest : List String) : List Mark × List String :=
  let (name, attached) := match Text.cutFirst '=' text with
    | some (name, value) => (name, some (String.ofList value))
    | none => (text, none)
  match known.find? fun switch => switch.long == String.ofList name with
  | none => ([.misuse], [])
  | some switch =>
    match attached, switch.arity with
    | some value, _ => ([switch.taking value], rest)
    | none, .alone => ([.switch switch.long ""], rest)
    | none, .value _ => switch.takingNext rest

/-- A run of short switches. The first one that takes a value takes all the
characters behind it, without an equals sign in front, or else the next
argument. -/
def readShort (known : List Switch) : List Char → List String → List Mark × List String
  | [], rest => ([], rest)
  | letter :: more, rest =>
    match known.find? fun switch => switch.short == some letter with
    | none => ([.misuse], [])
    | some switch =>
      match switch.arity, more with
      | .alone, _ =>
        let (marks, rest) := readShort known more rest
        (.switch switch.long "" :: marks, rest)
      | .value _, [] => switch.takingNext rest
      | .value _, '=' :: value => ([switch.taking (String.ofList value)], rest)
      | .value _, value => ([switch.taking (String.ofList value)], rest)

/-- The marks of one argument, and the arguments left when it has taken its
value. -/
def readOne (known : List Switch) (argument : String) (rest : List String) : List Mark × List String :=
  match argument.toList with
  | '-' :: '-' :: text => readLong known text rest
  | '-' :: first :: more => readShort known (first :: more) rest
  | _ => ([.word argument], rest)

theorem takingNext_length (switch : Switch) (rest : List String) :
    (switch.takingNext rest).2.length ≤ rest.length := by
  cases rest with
  | nil => simp [takingNext]
  | cons next rest =>
    simp only [takingNext]
    split <;> simp

theorem readLong_length (known : List Switch) (text : List Char) (rest : List String) :
    (readLong known text rest).2.length ≤ rest.length := by
  simp only [readLong]
  split
  · simp
  · split
    · simp
    · simp
    · exact takingNext_length _ rest

theorem readShort_length (known : List Switch) (text : List Char) (rest : List String) :
    (readShort known text rest).2.length ≤ rest.length := by
  induction text with
  | nil => simp [readShort]
  | cons letter more ih =>
    simp only [readShort]
    split
    · simp
    · split
      · exact ih
      · exact takingNext_length _ rest
      · simp
      · simp

/-- No argument is invented: what is left is at most what was left before. -/
theorem readOne_length (known : List Switch) (argument : String) (rest : List String) :
    (readOne known argument rest).2.length ≤ rest.length := by
  simp only [readOne]
  split
  · exact readLong_length known _ rest
  · exact readShort_length known _ rest
  · simp

/-- The marks of all arguments. Behind two dashes every argument is a word. -/
def readAll (known : List Switch) : List String → List Mark
  | [] => []
  | argument :: rest =>
    if argument = "--" then rest.map .word
    else
      (readOne known argument rest).1 ++ readAll known (readOne known argument rest).2
  termination_by arguments => arguments.length
  decreasing_by
    have := readOne_length known argument rest
    simp only [List.length_cons]
    omega

/-- The marks in front of the first word, the word and the arguments behind it.
Two dashes leave no word to be found. -/
def readToWord (known : List Switch) : List String → List Mark × Option (String × List String)
  | [] => ([], none)
  | argument :: rest =>
    if argument = "--" then ([], none)
    else
      match readOne known argument rest with
      | ([.word text], rest) => ([], some (text, rest))
      | (marks, _) =>
        let (others, word) := readToWord known (readOne known argument rest).2
        (marks ++ others, word)
  termination_by arguments => arguments.length
  decreasing_by
    have := readOne_length known argument rest
    simp only [List.length_cons]
    omega

end Switch
end Polyquery.Command
