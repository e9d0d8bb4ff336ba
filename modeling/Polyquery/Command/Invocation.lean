import Polyquery.Command.Switch

/-! What a command line asks for. Three commands take their own switches; two
switches, for the settings file and for more output, may stand in front of the
command as well as behind it. -/
namespace Polyquery.Command

inductive Format where
  | table
  | json
  deriving DecidableEq

namespace Format

def ofName? : String → Option Format
  | "table" => some .table
  | "json" => some .json
  | _ => none

end Format

/-- Compile the description in a file. -/
structure CompileRequest where
  settings? : Option String
  file : String
  dialect : String
  withoutReturning : Bool
  format : Format

/-- Run the description in a file against a database. -/
structure RunRequest where
  settings? : Option String
  verbose : Bool
  file : String
  url : String
  dialect? : Option String
  format : Format

inductive Invocation where
  | compile (request : CompileRequest)
  | run (request : RunRequest)
  | dialects
  | version
  | help

namespace Invocation

/-- The variable that names the database when no switch does. -/
def urlVariable : String := "SQLWEAVE_DATABASE_URL"

def configSwitch : Switch := ⟨"config", none, .value fun value => !value.isEmpty⟩

def verboseSwitch : Switch := ⟨"verbose", some 'v', .alone⟩

def helpSwitch : Switch := ⟨"help", some 'h', .alone⟩

def versionSwitch : Switch := ⟨"version", some 'V', .alone⟩

def dialectSwitch : Switch := ⟨"dialect", some 'd', .value fun _ => true⟩

def formatSwitch : Switch := ⟨"format", some 'f', .value fun value => (Format.ofName? value).isSome⟩

def returningSwitch : Switch := ⟨"no-returning", none, .alone⟩

def urlSwitch : Switch := ⟨"database-url", none, .value fun _ => true⟩

/-- The switches that stand everywhere. -/
def sharedSwitches : List Switch := [configSwitch, verboseSwitch, helpSwitch]

/-- What the marks of one level say: the switches with their values, and the
words. -/
structure Given where
  switches : List (String × String)
  words : List String

namespace Given

def none : Given := ⟨[], []⟩

def value? (given : Given) (name : String) : Option String :=
  (given.switches.find? fun switch => switch.1 == name).map Prod.snd

def has (given : Given) (name : String) : Bool := (given.value? name).isSome

/-- How reading the marks of one level ends. -/
inductive Reading where
  | complete (given : Given)
  /-- A switch that answers at once, whatever stands behind it. -/
  | notice (invocation : Invocation)
  | misuse

/-- Take in the marks of one level, which has room for so many words. A word
that is a file name cannot be empty. A switch stands once on each level. -/
def read (room : Nat) (given : Given) : List Mark → Reading
  | [] => .complete given
  | .misuse :: _ => .misuse
  | .word text :: rest =>
    if text.isEmpty || room ≤ given.words.length then .misuse
    else read room { given with words := given.words ++ [text] } rest
  | .switch name value :: rest =>
    if name = helpSwitch.long then .notice .help
    else if name = versionSwitch.long then .notice .version
    else if given.has name then .misuse
    else read room { given with switches := given.switches ++ [(name, value)] } rest

/-- The settings file: the one named behind the command, else the one named in
front of it. -/
def settings? (front given : Given) : Option String :=
  (given.value? configSwitch.long).orElse fun _ => front.value? configSwitch.long

def format (given : Given) : Format :=
  ((given.value? formatSwitch.long).bind Format.ofName?).getD .table

end Given

/-- The commands. -/
inductive Name where
  | compile
  | run
  | dialects
  deriving DecidableEq

namespace Name

def ofText? : String → Option Name
  | "compile" => some .compile
  | "run" => some .run
  | "dialects" => some .dialects
  | _ => none

/-- The switches that stand behind a command. -/
def switches : Name → List Switch
  | .compile => sharedSwitches ++ [dialectSwitch, formatSwitch, returningSwitch]
  | .run => sharedSwitches ++ [dialectSwitch, formatSwitch, urlSwitch]
  | .dialects => sharedSwitches

/-- How many words stand behind a command. -/
def room : Name → Nat
  | .compile | .run => 1
  | .dialects => 0

/-- What is asked of a command by what is given in front of it and behind it.
The environment may name the database. -/
def invocation? (name : Name) (environment : String → Option String) (front given : Given) :
    Option Invocation :=
  match name, given.words with
  | .compile, [file] =>
    some (.compile ⟨front.settings? given, file, (given.value? dialectSwitch.long).getD "pg",
      given.has returningSwitch.long, given.format⟩)
  | .run, [file] => do
    let url ← (given.value? urlSwitch.long).orElse fun _ => environment urlVariable
    some (.run ⟨front.settings? given, front.has verboseSwitch.long || given.has verboseSwitch.long,
      file, url, given.value? dialectSwitch.long, given.format⟩)
  | .dialects, [] => some .dialects
  | _, _ => none

end Name

/-- Help is asked for with the word `help`, alone or with a command to explain. -/
def helpFor : List String → Option Invocation
  | [] => some .help
  | [topic] => if topic = "help" || (Name.ofText? topic).isSome then some .help else none
  | _ => none

/-- What the arguments ask for, or nothing if they are misused. -/
def ofArguments? (environment : String → Option String) (arguments : List String) :
    Option Invocation :=
  let (marks, word) := Switch.readToWord (versionSwitch :: sharedSwitches) arguments
  match Given.none.read 0 marks, word with
  | .misuse, _ | .complete _, none => none
  | .notice invocation, _ => some invocation
  | .complete front, some (text, rest) =>
    if text = "help" then helpFor rest
    else
      match Name.ofText? text with
      | none => none
      | some name =>
        match Given.none.read name.room (Switch.readAll name.switches rest) with
        | .misuse => none
        | .notice invocation => some invocation
        | .complete given => name.invocation? environment front given

end Invocation
end Polyquery.Command
