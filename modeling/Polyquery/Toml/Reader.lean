import Polyquery.Toml.Scalar

/-! Reading TOML text. A step takes what it needs from the front of the text and
hands on the rest; nothing means that the text is malformed. -/
namespace Polyquery.Toml
open Text

def skipBlanks (text : List Char) : List Char := text.dropWhile fun c => c = ' ' || c = '\t'

/-- A character that may stand in a comment or a one-line text: no control
character but the tab. -/
def isPrintable (c : Char) : Bool := c = '\t' || (0x20 ≤ c.toNat && c.toNat != 0x7F)

/-- The text behind a line break. -/
def takeNewline : List Char → Option (List Char)
  | '\n' :: rest => some rest
  | '\r' :: '\n' :: rest => some rest
  | _ => none

def skipComment : List Char → List Char
  | '#' :: rest => rest.dropWhile isPrintable
  | rest => rest

/-- Whatever may stand between the items of an array: blanks, line breaks and
comments. The number bounds the steps. -/
def skipFiller : Nat → List Char → List Char
  | 0, text => text
  | steps + 1, text =>
    let rest := skipComment (skipBlanks text)
    match takeNewline rest with
    | some rest => skipFiller steps rest
    | none => rest

/-- The character of a one-letter escape. -/
def escapeChar : Char → Option Char
  | 'b' => some '\x08'
  | 't' => some '\t'
  | 'n' => some '\n'
  | 'f' => some '\x0c'
  | 'r' => some '\r'
  | '"' => some '"'
  | '\\' => some '\\'
  | _ => none

/-- The character that hexadecimal digits name, if they name one. -/
def codePoint? (digits : List Char) : Option Char := do
  let n ← Json.hexValue digits
  if n.isValidChar then some (Char.ofNat n) else none

/-- One escape, whose backslash is already read. -/
def readEscape : List Char → Option (Char × List Char)
  | 'u' :: a :: b :: c :: d :: rest => (codePoint? [a, b, c, d]).map (·, rest)
  | 'U' :: a :: b :: c :: d :: e :: f :: g :: h :: rest =>
    (codePoint? [a, b, c, d, e, f, g, h]).map (·, rest)
  | letter :: rest => (escapeChar letter).map (·, rest)
  | [] => none

/-- The rest of a one-line text in double quotes. -/
def readBasic : Nat → List Char → Option (List Char × List Char)
  | 0, _ => none
  | _, [] => none
  | _, '"' :: rest => some ([], rest)
  | steps + 1, '\\' :: rest => do
    let (c, rest) ← readEscape rest
    let (more, rest) ← readBasic steps rest
    some (c :: more, rest)
  | steps + 1, c :: rest =>
    if isPrintable c then (readBasic steps rest).map fun (more, rest) => (c :: more, rest) else none

/-- The rest of a one-line text in single quotes. -/
def readLiteral : List Char → Option (List Char × List Char)
  | [] => none
  | '\x27' :: rest => some ([], rest)
  | c :: rest =>
    if isPrintable c then (readLiteral rest).map fun (more, rest) => (c :: more, rest) else none

/-- The text behind a backslash that ends its line: all blanks and line breaks
up to the next other character are dropped. -/
def skipContinuation (text : List Char) : Option (List Char) :=
  (takeNewline (skipBlanks text)).map fun rest => rest.dropWhile fun c => c = ' ' || c = '\t' || c = '\n' || c = '\r'

/-- The quotes that close a text of several lines: three of them, and up to two
before them that belong to the text. -/
def closingQuotes (quote : Char) (text : List Char) : Option (List Char × List Char) :=
  let run := (text.takeWhile (· == quote)).length
  if run < 3 then none
  else
    let inside := min (run - 3) 2
    some (List.replicate inside quote, text.drop (inside + 3))

/-- The rest of a text of several lines. Escapes count only in double quotes. -/
def readLines (quote : Char) : Nat → List Char → Option (List Char × List Char)
  | 0, _ => none
  | _, [] => none
  | steps + 1, c :: rest =>
    if c = quote then
      match closingQuotes quote (c :: rest) with
      | some found => some found
      | none => (readLines quote steps rest).map fun (more, rest) => (c :: more, rest)
    else if c = '\\' && quote = '"' then
      match skipContinuation rest with
      | some rest => readLines quote steps rest
      | none => do
        let (c, rest) ← readEscape rest
        let (more, rest) ← readLines quote steps rest
        some (c :: more, rest)
    else
      match takeNewline (c :: rest) with
      | some rest => (readLines quote steps rest).map fun (more, rest) => ('\n' :: more, rest)
      | none =>
        if isPrintable c then
          (readLines quote steps rest).map fun (more, rest) => (c :: more, rest)
        else none

/-- A line break right behind the opening quotes is no part of the text. -/
def dropFirstNewline (text : List Char) : List Char := (takeNewline text).getD text

/-- A key between two dots: bare, or a one-line text. -/
def readSimpleKey (text : List Char) : Option (String × List Char) :=
  match text with
  | '"' :: rest => (readBasic rest.length rest).map fun (key, rest) => (String.ofList key, rest)
  | '\x27' :: rest => (readLiteral rest).map fun (key, rest) => (String.ofList key, rest)
  | _ =>
    let isBare := fun (c : Char) => c.isAlphanum || c = '_' || c = '-'
    let key := text.takeWhile isBare
    if key.isEmpty then none else some (String.ofList key, text.dropWhile isBare)

/-- The number of arrays and inline tables that may stand inside one another,
and of keys between dots. -/
def depthLimit : Nat := 79

/-- The keys of a dotted key. -/
def readPath : Nat → List Char → Option (List String × List Char)
  | 0, _ => none
  | steps + 1, text => do
    let (key, rest) ← readSimpleKey (skipBlanks text)
    match skipBlanks rest with
    | '.' :: rest => do
      let (path, rest) ← readPath steps rest
      some (key :: path, rest)
    | rest => some ([key], rest)

/-- A dotted key with the blanks around it. -/
def readKey (text : List Char) : Option (List String × List Char) := readPath depthLimit text

mutual
/-- A value. One number bounds the depth and the other the steps. -/
def readValue (depth : Nat) : Nat → List Char → Option (Value × List Char)
  | 0, _ => none
  | steps + 1, text =>
    match text, depth with
    | '"' :: '"' :: '"' :: rest, _ =>
      (readLines '"' (rest.length + 1) (dropFirstNewline rest)).map fun (s, rest) =>
        (.string (String.ofList s), rest)
    | '\x27' :: '\x27' :: '\x27' :: rest, _ =>
      (readLines '\x27' (rest.length + 1) (dropFirstNewline rest)).map fun (s, rest) =>
        (.string (String.ofList s), rest)
    | '"' :: rest, _ =>
      (readBasic rest.length rest).map fun (s, rest) => (.string (String.ofList s), rest)
    | '\x27' :: rest, _ => (readLiteral rest).map fun (s, rest) => (.string (String.ofList s), rest)
    | '[' :: _, 0 | '\x7b' :: _, 0 => none
    | '[' :: rest, depth + 1 => do
      let (items, rest) ← readItems depth steps rest
      some (.array items, rest)
    | '\x7b' :: rest, depth + 1 =>
      match skipBlanks rest with
      | '\x7d' :: rest => some (.table [], rest)
      | rest => do
        let (entries, rest) ← readPairs depth steps [] rest
        some (.table (entriesToValues entries), rest)
    | _, _ =>
      let (scalar, rest) := takeScalar text
      (scalar? scalar).map (·, rest)

/-- The items of an array up to the closing bracket; a comma may stand behind
the last one. -/
def readItems (depth : Nat) : Nat → List Char → Option (List Value × List Char)
  | 0, _ => none
  | steps + 1, text =>
    match skipFiller (text.length + 1) text with
    | ']' :: rest => some ([], rest)
    | text => do
      let (item, rest) ← readValue depth steps text
      match skipFiller (rest.length + 1) rest with
      | ']' :: rest => some ([item], rest)
      | ',' :: rest => do
        let (items, rest) ← readItems depth steps rest
        some (item :: items, rest)
      | _ => none

/-- The pairs of an inline table up to the closing brace, at least one. -/
def readPairs (depth : Nat) : Nat → Entries → List Char → Option (Entries × List Char)
  | 0, _, _ => none
  | steps + 1, entries, text => do
    let (path, rest) ← readKey text
    match rest with
    | '=' :: rest => do
      let (value, rest) ← readValue depth steps (skipBlanks rest)
      let entries ← entries.assign value path
      match skipBlanks rest with
      | '\x7d' :: rest => some (entries, rest)
      | ',' :: rest => readPairs depth steps entries rest
      | _ => none
    | _ => none
end

/-- What is read so far: the tree and the path of the last header. -/
structure Progress where
  root : Entries
  header : List String

/-- The header of a table, behind its opening brackets. -/
def readHeader (element : Bool) (state : Progress) (text : List Char) :
    Option (Progress × List Char) := do
  let (path, rest) ← readKey text
  let last ← path.getLast?
  let opened := if element then Entries.openElement last else Entries.openTable last
  let root ← Entries.descend opened path.dropLast state.root
  match element, rest with
  | false, ']' :: rest => some (⟨root, path⟩, rest)
  | true, ']' :: ']' :: rest => some (⟨root, path⟩, rest)
  | _, _ => none

/-- One line without its comment: empty, a header, or a key with its value. -/
def readLine (state : Progress) (text : List Char) : Option (Progress × List Char) :=
  match skipBlanks text with
  | [] => some (state, [])
  | '#' :: rest => some (state, '#' :: rest)
  | '[' :: '[' :: rest => readHeader true state rest
  | '[' :: rest => readHeader false state rest
  | text =>
    if (takeNewline text).isSome then some (state, text)
    else do
      let (path, rest) ← readKey text
      match rest with
      | '=' :: rest => do
        let (value, rest) ← readValue depthLimit (2 * text.length + 2) (skipBlanks rest)
        let root ← Entries.descend (Entries.assign value path) state.header state.root
        some (⟨root, state.header⟩, rest)
      | _ => none

/-- All lines of a text. -/
def readAll : Nat → Progress → List Char → Option Progress
  | 0, _, _ => none
  | steps + 1, state, text => do
    let (state, rest) ← readLine state text
    match skipComment (skipBlanks rest) with
    | [] => some state
    | rest => do readAll steps state (← takeNewline rest)

/-- The entries of a TOML text. A byte order mark in front is skipped. -/
def parse? (text : String) : Option (List (String × Value)) :=
  let chars := match text.toList with
    | c :: rest => if c = Char.ofNat 0xFEFF then rest else c :: rest
    | [] => []
  (readAll (chars.length + 1) ⟨[], []⟩ chars).map fun state => entriesToValues state.root

end Polyquery.Toml
