import Polyquery.Json.Basic
import Polyquery.Decimal.Printed
import Polyquery.Text.Split

/-! The two texts of a JSON value: the compact one without any blank, and the
indented one with two spaces for each level. -/
namespace Polyquery.Json
open Decimal Text

/-- A character inside a quoted text: the quote, the backslash and the control
characters are escaped, everything else stands for itself. -/
def escaped (c : Char) : List Char :=
  if c = '"' then ['\\', '"']
  else if c = '\\' then ['\\', '\\']
  else if c = '\x08' then ['\\', 'b']
  else if c = '\t' then ['\\', 't']
  else if c = '\n' then ['\\', 'n']
  else if c = '\x0c' then ['\\', 'f']
  else if c = '\r' then ['\\', 'r']
  else if c.toNat < 0x20 then
    ['\\', 'u', '0', '0', Nat.digitChar (c.toNat / 16), Nat.digitChar (c.toNat % 16)]
  else [c]

/-- A quoted text. -/
def quoted (text : String) : List Char := '"' :: text.toList.flatMap escaped ++ ['"']

def Number.print : Number → List Char
  | .int n _ => (toString n).toList
  | .float x _ => (Style.json.print x).toList

mutual
/-- The compact text as characters. -/
def compactChars : Json → List Char
  | .null => "null".toList
  | .bool true => "true".toList
  | .bool false => "false".toList
  | .number n => n.print
  | .string s => quoted s
  | .array items => '[' :: intersperse [','] (compactItems items) ++ [']']
  | .object members => '\x7b' :: intersperse [','] (compactMembers members) ++ ['\x7d']

/-- The compact texts of the items of an array. -/
def compactItems : List Json → List (List Char)
  | [] => []
  | item :: rest => compactChars item :: compactItems rest

/-- The compact texts of the members of an object. -/
def compactMembers : List (String × Json) → List (List Char)
  | [] => []
  | (name, value) :: rest => (quoted name ++ ':' :: compactChars value) :: compactMembers rest
end

/-- The compact text. -/
def compact (json : Json) : String := String.ofList (compactChars json)

/-- A line break and the blanks of a level. -/
def newline (level : Nat) : List Char := '\n' :: List.replicate (2 * level) ' '

/-- Parts on lines of their own, one level deeper, between two brackets. -/
def block (left right : Char) (level : Nat) : List (List Char) → List Char
  | [] => [left, right]
  | parts =>
    left :: newline (level + 1) ++ intersperse (',' :: newline (level + 1)) parts ++
      newline level ++ [right]

mutual
/-- The indented text as characters, for a value at the given level. -/
def indentedChars (level : Nat) : Json → List Char
  | .array items => block '[' ']' level (indentedItems (level + 1) items)
  | .object members => block '\x7b' '\x7d' level (indentedMembers (level + 1) members)
  | scalar => compactChars scalar

/-- The indented texts of the items of an array. -/
def indentedItems (level : Nat) : List Json → List (List Char)
  | [] => []
  | item :: rest => indentedChars level item :: indentedItems level rest

/-- The indented texts of the members of an object. -/
def indentedMembers (level : Nat) : List (String × Json) → List (List Char)
  | [] => []
  | (name, value) :: rest =>
    (quoted name ++ ':' :: ' ' :: indentedChars level value) :: indentedMembers level rest
end

/-- The indented text. -/
def indented (json : Json) : String := String.ofList (indentedChars 0 json)

end Polyquery.Json
