import Polyquery.Json.Basic

/-! What a JSON text says before anybody asks for its values. A document keeps
repeated names, and it marks the places whose text is well-formed but which no
`Json` value can hold. Such a place is an error only for a reader that needs
it: a member that is skipped may hold anything. -/
namespace Polyquery.Json

/-- The contents of a JSON text. -/
inductive Document where
  | null
  | bool (b : Bool)
  | number (n : Number)
  | string (s : String)
  | array (items : List Document)
  | object (members : List (String × Document))
  /-- A number beyond the finite range, a text with an unpaired surrogate, or a
  value nested too deeply. -/
  | unreadable
  deriving Inhabited

namespace Document

mutual
/-- The value of a document. A repeated name keeps its first place and its last
value. -/
def toJson? : Document → Option Json
  | .null => some .null
  | .bool b => some (.bool b)
  | .number n => some (.number n)
  | .string s => some (.string s)
  | .array items => (itemsToJson? items).map .array
  | .object members => (membersToJson? members).map fun list => ofRecord (Record.ofList list)
  | .unreadable => none

def itemsToJson? : List Document → Option (List Json)
  | [] => some []
  | item :: rest => do
    let first ← toJson? item
    let others ← itemsToJson? rest
    some (first :: others)

def membersToJson? : List (String × Document) → Option (List (String × Json))
  | [] => some []
  | (name, value) :: rest => do
    let first ← toJson? value
    let others ← membersToJson? rest
    some ((name, first) :: others)
end

mutual
/-- The document that says just this value. -/
def ofJson : Json → Document
  | .null => .null
  | .bool b => .bool b
  | .number n => .number n
  | .string s => .string s
  | .array items => .array (ofItems items)
  | .object members => .object (ofMembers members)

def ofItems : List Json → List Document
  | [] => []
  | item :: rest => ofJson item :: ofItems rest

def ofMembers : List (String × Json) → List (String × Document)
  | [] => []
  | (name, value) :: rest => (name, ofJson value) :: ofMembers rest
end

end Document
end Polyquery.Json
