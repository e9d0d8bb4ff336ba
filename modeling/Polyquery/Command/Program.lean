import Polyquery.Command.Failure
import Polyquery.Command.Listing
import Polyquery.Database.Exchange
import Polyquery.Settings
import Polyquery.Wire.Query

/-! Carrying out a command. The settings are loaded first, then the dialect is
chosen, then the description is read: of several faults the first in this order
is told. A run that gets so far hands out a session, to be held with a server. -/
namespace Polyquery.Command

/-- What a command can see around it. -/
structure Surroundings where
  read : String → Except ReadFault String
  environment : String → Option String
  /-- The directory where programs keep their settings. -/
  settingsDirectory : Option String

/-- What a command leaves behind. -/
structure Report where
  output : String
  log : List String
  /-- The cells that should have held JSON and did not. -/
  warnings : List CellFault
  failure : Option Failure

namespace Report

def success (output : String) : Report := ⟨output, [], [], none⟩

def failed (failure : Failure) : Report := ⟨"", [], [], some failure⟩

/-- Zero for success. -/
def exitCode (report : Report) : Nat := if report.failure.isSome then 1 else 0

end Report

/-- The query of a run, ready to be sent to a server. -/
structure Session where
  server : Database.Server
  dialect : Dialect
  settings : Settings
  url : String
  /-- What is printed before the server is reached. -/
  preamble : String
  format : Format
  operation : Operation
  conversation : Conversation Compiled

namespace Session

/-- The report of a session in which statements went out and a result came. -/
def report (session : Session) (statements : List Compiled) (result : Except Error Outcome) : Report :=
  let log := session.settings.log session.dialect statements
  match result with
  | .error error => ⟨session.preamble, log, [], some (.query error)⟩
  | .ok outcome =>
    ⟨session.preamble ++ Listing.outcome session.format session.operation outcome, log,
      outcome.faults, none⟩

/-- Whether an address begins with a scheme: a letter, then letters, digits and
a few signs up to a colon. -/
def hasScheme (url : String) : Bool :=
  match Text.cutFirst ':' (Text.trim url.toList) with
  | some (first :: more, _) =>
    first.isAlpha && more.all fun c => c.isAlphanum || c = '+' || c = '-' || c = '.'
  | _ => false

/-- The report of a session whose server was not reached. -/
def unreached (session : Session) (text : String) : Report :=
  let why := if hasScheme session.url then .other text else .relativeAddress
  ⟨session.preamble, [], [], some (.connection session.url why)⟩

/-- The session held with a server that gives replies one after the other: what
the server received, and the report. -/
def hold (session : Session) (replies : List Database.Reply) : List Database.Received × Report :=
  let (received, result) := session.server.hold session.conversation replies
  (received, session.report (received.map Database.Received.statement) result)

end Session

/-- How far a command gets on its own. -/
inductive Progress where
  | finished (report : Report)
  | session (session : Session)

/-- The file where the settings are kept when no other is named. -/
def usualSettings (directory : String) : String := directory ++ "/sqlweave/config.toml"

namespace Surroundings

/-- The usual settings file, if there is one. -/
def settingsFile? (surroundings : Surroundings) : Option String :=
  (surroundings.settingsDirectory.map usualSettings).filter fun path =>
    match surroundings.read path with
    | .ok _ => true
    | .error fault => fault.isOfFile

/-- The settings of a file. -/
def readSettings (surroundings : Surroundings) (path : String) : Except Error Settings :=
  match surroundings.read path with
  | .error fault => .error (.unreadableFile fault.message)
  | .ok text => Settings.ofToml text

/-- The settings of the named file, else those of the usual file if there is
one, else the defaults; the environment has the last word. -/
def settings (surroundings : Surroundings) (named : Option String) : Except Failure Settings :=
  let loaded : Except Error Settings := do
    let settings ← match named.orElse fun _ => surroundings.settingsFile? with
      | some path => surroundings.readSettings path
      | none => .ok Settings.default
    settings.withEnvironment surroundings.environment
  loaded.mapError .settings

/-- The query that a file describes. -/
def query (surroundings : Surroundings) (path : String) : Except Failure Query :=
  match surroundings.read path with
  | .error fault => .error (.file path fault)
  | .ok text =>
    match Query.parse? text with
    | some query => .ok query
    | none => .error (.description path)

end Surroundings

/-- The dialect of a name, as a command takes it. -/
def namedDialect (name : String) : Except Failure Dialect :=
  (Dialect.ofName name).mapError .query

/-- What stands in front of the first `://` of an address; all of it if there
is none. -/
def scheme : List Char → List Char
  | [] => []
  | ':' :: '/' :: '/' :: _ => []
  | c :: rest => c :: scheme rest

/-- The dialect that an address speaks of. -/
def dialectOfUrl (url : String) : Except Failure Dialect :=
  match String.ofList (scheme url.toList) with
  | "postgres" | "postgresql" => .ok .postgres
  | "mysql" => .ok .mysql
  | "mariadb" => .ok .mariadb
  | other => .error (.scheme other)

namespace CompileRequest

/-- The text that a compile request prints. -/
def listing (request : CompileRequest) (surroundings : Surroundings) : Except Failure String := do
  let settings ← surroundings.settings request.settings?
  let dialect ← namedDialect request.dialect
  let query ← surroundings.query request.file
  let compiler : Compiler := ⟨dialect, settings.rowCap, request.withoutReturning⟩
  let statement ← (compiler.compile query).mapError .query
  return Listing.statement request.format dialect statement

def report (request : CompileRequest) (surroundings : Surroundings) : Report :=
  match request.listing surroundings with
  | .ok text => .success text
  | .error failure => .failed failure

end CompileRequest

namespace RunRequest

/-- The dialect, the settings and the query of a run. -/
def prepare (request : RunRequest) (surroundings : Surroundings) :
    Except Failure (Dialect × Settings × Query) := do
  let settings ← surroundings.settings request.settings?
  let dialect ← match request.dialect? with
    | some name => namedDialect name
    | none => dialectOfUrl request.url
  return (dialect, settings, ← surroundings.query request.file)

/-- What is printed before the server is reached. -/
def preamble (request : RunRequest) : String :=
  if request.verbose then lines [("Connecting to: " ++ request.url).toList] else ""

def progress (request : RunRequest) (surroundings : Surroundings) : Progress :=
  match request.prepare surroundings with
  | .error failure => .finished (.failed failure)
  | .ok (dialect, settings, query) =>
    match Database.ofDialect? dialect with
    | none => .finished ⟨request.preamble, [], [], some (.driver dialect)⟩
    | some server =>
      .session ⟨server, dialect, settings, request.url, request.preamble, request.format,
        query.operation, query.conversation dialect settings.rowCap id⟩

end RunRequest

/-- Carry out what a command line asks for. -/
def Invocation.progress (invocation : Invocation) (surroundings : Surroundings) : Progress :=
  match invocation with
  | .compile request => .finished (request.report surroundings)
  | .run request => request.progress surroundings
  | .dialects => .finished (.success Listing.reference)
  | .version => .finished (.success Listing.version)
  | .help => .finished (.success Listing.help)

/-- The variables that a command may look up. -/
def variableNames : List String :=
  [Invocation.urlVariable, Settings.rowCapVariable, Settings.loggingVariable]

/-- The files that a command may read, where the settings are kept in the given
directory. -/
def Invocation.paths (directory : Option String) : Invocation → List String
  | .compile request => request.file :: (request.settings?.orElse fun _ => directory.map usualSettings).toList
  | .run request => request.file :: (request.settings?.orElse fun _ => directory.map usualSettings).toList
  | .dialects | .version | .help => []

/-- The exit code of a command line that is misused. -/
def misuseCode : Nat := 2

end Polyquery.Command
