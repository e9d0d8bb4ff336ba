import Polyquery.Error

/-! Why a command fails. A failure is told from the outside in: what was tried,
then what stood in the way. -/
namespace Polyquery.Command

/-- Why a file gives no text. -/
inductive ReadFault where
  | missing
  | isDirectory
  /-- A part of its path that should be a directory is none. -/
  | throughFile
  | notText
  | other (text : String)
  deriving DecidableEq

namespace ReadFault

def message : ReadFault → String
  | .missing => "No such file or directory (os error 2)"
  | .isDirectory => "Is a directory (os error 21)"
  | .throughFile => "Not a directory (os error 20)"
  | .notText => "stream did not contain valid UTF-8"
  | .other text => text

/-- Whether there is a file all the same. -/
def isOfFile : ReadFault → Bool
  | .missing | .isDirectory | .throughFile => false
  | .notText | .other _ => true

end ReadFault

/-- Why a database cannot be reached. -/
inductive Unreachable where
  /-- The address does not begin with a scheme. -/
  | relativeAddress
  | other (text : String)
  deriving DecidableEq

namespace Unreachable

/-- An address is also blamed as the setting that it is. -/
def message : Unreachable → String
  | .relativeAddress =>
    "error with configuration: relative URL without a base: relative URL without a base"
  | .other text => text

end Unreachable

inductive Failure where
  | settings (why : Error)
  /-- The scheme of an address that no dialect belongs to. -/
  | scheme (name : String)
  | file (path : String) (why : ReadFault)
  | description (path : String)
  | driver (dialect : Dialect)
  | connection (url : String) (why : Unreachable)
  | query (why : Error)
  deriving DecidableEq

namespace Failure

/-- An error with the cause that it repeats: what cannot be read is named once
as an error and once as its own cause. -/
def causes (error : Error) : String :=
  match error with
  | .unreadableFile text => error.message ++ ": " ++ text
  | _ => error.message

def message : Failure → String
  | .settings why => "Failed to load configuration: " ++ causes why
  | .scheme name => "Cannot infer a dialect from '" ++ name ++ "://', pass --dialect"
  | .file path why => "Failed to read " ++ path ++ ": " ++ why.message
  | .description path => path ++ " is not a valid query description"
  | .driver dialect =>
    "No bundled driver for " ++ dialect.name ++ "; use \x60compile\x60 and run the SQL yourself"
  | .connection url why => "Failed to connect to " ++ url ++ ": " ++ why.message
  | .query why => causes why

end Failure
end Polyquery.Command
