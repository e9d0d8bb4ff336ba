/-! TOML values and the tree that the lines of a TOML text build. A table may
come into being in three ways, and the way decides what later lines may still
add to it. -/
namespace Polyquery.Toml

/-- A value on the right of an equals sign. Fractional numbers and moments are
kept as written. -/
inductive Value where
  | string (s : String)
  | integer (n : Int)
  | float (text : String)
  | boolean (b : Bool)
  | moment (text : String)
  | array (items : List Value)
  | table (entries : List (String × Value))
  deriving Inhabited

/-- How a table came into being: passed through by a longer header, opened by
a header of its own, or passed through by a dotted key. -/
inductive Origin where
  | passed
  | header
  | dotted
  deriving DecidableEq

/-- An entry of the tree under construction. -/
inductive Node where
  | value (v : Value)
  | table (origin : Origin) (entries : List (String × Node))
  | tables (elements : List (List (String × Node)))
  deriving Inhabited

abbrev Entries := List (String × Node)

namespace Entries

def get? (entries : Entries) (key : String) : Option Node :=
  (entries.find? fun entry => entry.1 == key).map Prod.snd

/-- The entries with one replaced, or added at the end. -/
def set (entries : Entries) (key : String) (node : Node) : Entries :=
  if entries.any fun entry => entry.1 == key then
    entries.map fun entry => if entry.1 == key then (key, node) else entry
  else entries ++ [(key, node)]

/-- Change the entries of the table that a path of header keys leads to. Missing
tables are made on the way; a list of tables stands for its last element. -/
def descend (change : Entries → Option Entries) : List String → Entries → Option Entries
  | [], entries => change entries
  | key :: path, entries =>
    match entries.get? key with
    | none => (descend change path []).map fun inner => entries.set key (.table .passed inner)
    | some (.table origin inner) =>
      (descend change path inner).map fun inner => entries.set key (.table origin inner)
    | some (.tables elements) =>
      match elements.getLast? with
      | some last =>
        (descend change path last).map fun last =>
          entries.set key (.tables (elements.dropLast ++ [last]))
      | none => none
    | some (.value _) => none

/-- Open the table of a header. A table that a longer header only passed
through may still be opened, once. -/
def openTable (key : String) (entries : Entries) : Option Entries :=
  match entries.get? key with
  | none => some (entries.set key (.table .header []))
  | some (.table .passed inner) => some (entries.set key (.table .header inner))
  | some _ => none

/-- Add an element to the list of tables of a double-bracket header. -/
def openElement (key : String) (entries : Entries) : Option Entries :=
  match entries.get? key with
  | none => some (entries.set key (.tables [[]]))
  | some (.tables elements) => some (entries.set key (.tables (elements ++ [[]])))
  | some _ => none

/-- Set the value of a dotted key. No key is set twice, and no table on the way
has a header of its own. The last one, which takes the value, comes from dotted
keys itself. -/
def assign (value : Value) : List String → Entries → Option Entries
  | [], _ => none
  | [key], entries =>
    match entries.get? key with
    | none => some (entries.set key (.value value))
    | some _ => none
  | key :: next :: path, entries =>
    match entries.get? key with
    | none => (assign value (next :: path) []).map fun inner => entries.set key (.table .dotted inner)
    | some (.table .dotted inner) =>
      (assign value (next :: path) inner).map fun inner => entries.set key (.table .dotted inner)
    | some (.table .passed inner) =>
      if path.isEmpty then none
      else (assign value (next :: path) inner).map fun inner => entries.set key (.table .passed inner)
    | some (.tables elements) =>
      match elements.getLast? with
      | some last =>
        if path.isEmpty then none
        else (assign value (next :: path) last).map fun last =>
          entries.set key (.tables (elements.dropLast ++ [last]))
      | none => none
    | some (.table .header _) | some (.value _) => none

end Entries

mutual
/-- The finished value of an entry. -/
def Node.toValue : Node → Value
  | .value v => v
  | .table _ entries => .table (entriesToValues entries)
  | .tables elements => .array (elementsToValues elements)

def entriesToValues : List (String × Node) → List (String × Value)
  | [] => []
  | (key, node) :: rest => (key, node.toValue) :: entriesToValues rest

def elementsToValues : List (List (String × Node)) → List Value
  | [] => []
  | element :: rest => .table (entriesToValues element) :: elementsToValues rest
end

end Polyquery.Toml
