import Polyquery.Query.Dialect
import Polyquery.Sql.Token

/-! Quoted identifiers. Inside of one, the closing quote is written twice and
every other character stands for itself. -/
namespace Polyquery.Dialect

def openQuote : Dialect → Char
  | .postgres | .oracle => '"'
  | .mysql | .mariadb => '\x60'
  | .sqlServer => '['

def closeQuote : Dialect → Char
  | .postgres | .oracle => '"'
  | .mysql | .mariadb => '\x60'
  | .sqlServer => ']'

/-- The characters of a name with the closing quote doubled. -/
def doubled (quote : Char) : List Char → List Char
  | [] => []
  | c :: rest => if c = quote then c :: c :: doubled quote rest else c :: doubled quote rest

/-- A name as one quoted identifier. -/
def quoteName (dialect : Dialect) (name : String) : List Char :=
  dialect.openQuote :: doubled dialect.closeQuote name.toList ++ [dialect.closeQuote]

end Polyquery.Dialect
