import Polyquery.Sql.Quote

/-! Writing SQL in a dialect. The dialect decides how names are quoted and how
placeholders look; placeholders are numbered from one, from left to right. -/
namespace Polyquery

/-- The placeholder with a number. -/
def Dialect.placeholder (dialect : Dialect) (index : Nat) : List Char :=
  match dialect with
  | .postgres => '$' :: Nat.toDigits 10 index
  | .mysql | .mariadb => ['?']
  | .sqlServer => '@' :: 'p' :: Nat.toDigits 10 index
  | .oracle => ':' :: Nat.toDigits 10 index

namespace Sql

/-- The text of a token, where a placeholder gets the given number. -/
def Token.write (dialect : Dialect) (index : Nat) : Token → List Char
  | .word w => w.text.toList
  | .mark m => m.text.toList
  | .space => [' ']
  | .number n => Nat.toDigits 10 n
  | .name s => dialect.quoteName s
  | .bound _ => dialect.placeholder index

/-- How many placeholders a token uses up. -/
def Token.uses : Token → Nat
  | .bound _ => 1
  | _ => 0

/-- The text of SQL whose placeholders are numbered from the given one on. -/
def writeFrom (dialect : Dialect) : Nat → Sql → List Char
  | _, [] => []
  | index, token :: rest => token.write dialect index ++ writeFrom dialect (index + token.uses) rest

/-- The text of SQL. -/
def write (dialect : Dialect) (sql : Sql) : String := String.ofList (writeFrom dialect 1 sql)

/-- Behind a token, placeholders are numbered on from those it uses up. -/
theorem index_behind (index : Nat) (token : Token) (rest : Sql) :
    index + token.uses + (bindings rest).length = index + (bindings (token :: rest)).length := by
  cases token with
  | bound v =>
    simp [bindings, Token.uses]
    omega
  | word | mark | space | number | name => simp [bindings, Token.uses]

theorem writeFrom_append (dialect : Dialect) (index : Nat) (a b : Sql) :
    writeFrom dialect index (a ++ b) =
      writeFrom dialect index a ++ writeFrom dialect (index + (bindings a).length) b := by
  induction a generalizing index with
  | nil => simp [writeFrom, bindings]
  | cons token rest ih =>
    simp only [List.cons_append, writeFrom, ih, index_behind, List.append_assoc]

end Sql

/-- A name as dotted quoted identifiers. -/
def Dialect.quote (dialect : Dialect) (name : String) : String := Sql.write dialect (Sql.path name)

end Polyquery
