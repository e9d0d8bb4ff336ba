import Polyquery.Compile.Compiled
import Polyquery.Toml.Reader

/-! Settings: the row cap and whether statements are logged. They come from the
defaults, then from a TOML text, then from environment variables. -/
namespace Polyquery
open Text

structure Settings where
  rowCap : Nat
  logging : Bool
  deriving DecidableEq

namespace Settings

def default : Settings := ⟨defaultRowCap, false⟩

def rowCapVariable : String := "SQL_MAX_ROWS"

def loggingVariable : String := "SQL_LOGGING_ENABLE"

/-- The settings, unless the row cap is zero. -/
def validated (settings : Settings) : Except Error Settings :=
  if settings.rowCap = 0 then .error (.misconfigured .rowCapZero) else .ok settings

/-- The row cap that a TOML entry sets. -/
def tomlRowCap : Option Toml.Value → Option Nat
  | none => some defaultRowCap
  | some (.integer n) => if 0 ≤ n then some n.toNat else none
  | some _ => none

/-- The logging switch that a TOML entry sets. -/
def tomlLogging : Option Toml.Value → Option Bool
  | none => some false
  | some (.boolean b) => some b
  | some _ => none

/-- The settings of a TOML text. Other entries than the two are skipped. -/
def ofToml (text : String) : Except Error Settings :=
  let found : Option Settings := do
    let entries ← Toml.parse? text
    let entry (name : String) := (entries.find? fun e => e.1 == name).map Prod.snd
    some ⟨← tomlRowCap (entry "max_rows"), ← tomlLogging (entry "logging")⟩
  match found with
  | some settings => settings.validated
  | none => .error .malformedToml

/-- A size in decimal digits, with an optional plus sign in front. -/
def readSize? (text : List Char) : Option Nat :=
  let digits := match text with
    | '+' :: rest => rest
    | rest => rest
  if digits.isEmpty || !digits.all isDigit then none
  else
    let n := digitsValue digits
    if n < rowNumbers then some n else none

/-- The words that switch logging on. -/
def isYes (text : String) : Bool :=
  ["1", "true", "yes"].contains (lowerAscii (String.ofList (trim text.toList)))

/-- The settings with those that the environment overrides. -/
def withEnvironment (settings : Settings) (environment : String → Option String) :
    Except Error Settings := do
  let rowCap ← match environment rowCapVariable with
    | none => .ok settings.rowCap
    | some text =>
      match readSize? (trim text.toList) with
      | some n => .ok n
      | none => .error (.misconfigured (.rowCapUnreadable rowCapVariable text))
  let logging := match environment loggingVariable with
    | none => settings.logging
    | some text => isYes text
  validated ⟨rowCap, logging⟩

/-- The lines that statements leave in the log, if there is one. -/
def log (settings : Settings) (dialect : Dialect) (statements : List Compiled) : List String :=
  if settings.logging then statements.map (·.logLine dialect) else []

end Settings
end Polyquery
