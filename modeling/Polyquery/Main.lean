import Polyquery.Command.Program

/-! The program: it gathers what a command can see, lets the command be carried
out, and prints what it reports. There is no network here, so that a run ends
where a server would be reached. -/
namespace Polyquery.Command

/-- What the system says about a file that gives no text. -/
def ReadFault.ofSystem : IO.Error → ReadFault
  | .noFileOrDirectory .. => .missing
  | .inappropriateType (some _) .. => .throughFile
  | .inappropriateType none .. => .isDirectory
  | .userError _ => .notText
  | .permissionDenied .. => .other "Permission denied (os error 13)"
  | fault => .other (toString fault)

def readText (path : String) : IO (Except ReadFault String) := do
  try
    return .ok (← IO.FS.readFile path)
  catch fault =>
    return .error (.ofSystem fault)

/-- The directory of settings, absolute, or the usual one in the home directory. -/
def settingsDirectory : IO (Option String) := do
  let home := (← IO.getEnv "HOME").map (· ++ "/.config")
  match ← IO.getEnv "XDG_CONFIG_HOME" with
  | some directory => return if directory.startsWith "/" then some directory else home
  | none => return home

def print (report : Report) : IO UInt32 := do
  IO.print report.output
  for line in report.log do
    IO.eprintln line
  for fault in report.warnings do
    IO.eprintln ("⚠ JSON decode: row " ++ toString fault.row ++ " column " ++ fault.column)
  match report.failure with
  | some failure => IO.eprintln ("Error: " ++ failure.message)
  | none => pure ()
  return report.exitCode.toUInt32

def run (arguments : List String) : IO UInt32 := do
  let values ← variableNames.mapM fun name => return (name, ← IO.getEnv name)
  let environment := fun name => (values.lookup name).join
  match Invocation.ofArguments? environment arguments with
  | none =>
    IO.eprint Listing.help
    return misuseCode.toUInt32
  | some invocation =>
    let directory ← settingsDirectory
    let texts ← (invocation.paths directory).mapM fun path => return (path, ← readText path)
    let read := fun path => (texts.lookup path).getD (.error .missing)
    match invocation.progress ⟨read, environment, directory⟩ with
    | .finished report => print report
    | .session session => print (session.unreached "no connection to database servers")

end Polyquery.Command

def main (arguments : List String) : IO UInt32 := Polyquery.Command.run arguments
