import Polyquery.Json.Document
import Polyquery.Keyed.Dictionary

/-! Reading typed values off a document. A structure is an object, whose unknown
members are skipped, or an array of its fields in their order. -/
namespace Polyquery.Wire
open Json

abbrev Decoder (α : Type) := Document → Option α

/-- Free JSON, as it stands. -/
def json : Decoder Json := Document.toJson?

def string : Decoder String
  | .string s => some s
  | _ => none

def bool : Decoder Bool
  | .bool b => some b
  | _ => none

/-- A size: an integer that is not negative. -/
def size : Decoder Nat
  | .number (.int n _) => if 0 ≤ n then some n.toNat else none
  | _ => none

/-- Null, or a value. -/
def nullable {α : Type} (decode : Decoder α) : Decoder (Option α)
  | .null => some none
  | document => (decode document).map some

def list {α : Type} (decode : Decoder α) : Decoder (List α)
  | .array items => items.mapM decode
  | _ => none

/-- The members of an object, each read with the same decoder. -/
def members {α : Type} (decode : Decoder α) : Decoder (List (String × α))
  | .object entries => entries.mapM fun (name, document) => (decode document).map fun value => (name, value)
  | _ => none

def record {α : Type} (decode : Decoder α) : Decoder (Record α) := fun document =>
  (members decode document).map Record.ofList

def dictionary {α : Type} (decode : Decoder α) : Decoder (Dictionary α) := fun document =>
  (members decode document).map Dictionary.ofList

/-- The name of a variant: a text, or an object with this one name and null. -/
def variant : Decoder String
  | .string name => some name
  | .object [(name, .null)] => some name
  | _ => none

/-- The documents of the named fields, each with the names it may go by. An
object must not give a field twice, an array must not have more items than
there are fields. -/
def fields (names : List (List String)) : Document → Option (List (Option Document))
  | .object entries =>
    names.mapM fun aliases =>
      match entries.filter fun entry => aliases.contains entry.1 with
      | [] => some none
      | [(_, document)] => some (some document)
      | _ => none
  | .array items =>
    if items.length ≤ names.length then
      some (items.map some ++ List.replicate (names.length - items.length) none)
    else none
  | _ => none

/-- A field that has to be there. -/
def required {α : Type} (decode : Decoder α) : Option Document → Option α
  | some document => decode document
  | none => none

/-- A field that takes a default when it is absent. -/
def defaulted {α : Type} (value : α) (decode : Decoder α) : Option Document → Option α
  | some document => decode document
  | none => some value

/-- A field that may be absent or null. -/
def optional {α : Type} (decode : Decoder α) : Option Document → Option (Option α)
  | some document => nullable decode document
  | none => some none

/-- The object of the members that are present. -/
def object (members : List (Option (String × Json))) : Json := .object (members.filterMap id)

/-- A member that is always written. -/
def always (name : String) (value : Json) : Option (String × Json) := some (name, value)

/-- A member that is left out when there is no value. -/
def whenSome {α : Type} (name : String) (value : Option α) (encode : α → Json) :
    Option (String × Json) :=
  value.map fun value => (name, encode value)

end Polyquery.Wire
