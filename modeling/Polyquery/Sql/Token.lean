import Polyquery.Text.Split
import Polyquery.Value.Basic

/-! SQL as a list of tokens. Text that comes from a query occurs in two kinds of
tokens only: a name, which is always quoted, and a bound value, which is never
written at all. Everything else is a word, a mark or a number of a fixed
vocabulary. -/
namespace Polyquery.Sql

/-- The words of the vocabulary. -/
inductive Word where
  | all | and | array | as | ascending | between | by | default | delete | descending | dual
  | fetch | from | id | ilike | in | insert | into | is | join | jsonb | jsonContains
  | jsonOverlaps | left | like | limit | lower | money | next | not | null | numeric | offset
  | on | only | or | order | returning | rows | scopeIdentity | select | set | top | update
  | values | where
  deriving DecidableEq

def Word.text : Word → String
  | .all => "ALL"
  | .and => "AND"
  | .array => "ARRAY"
  | .as => "AS"
  | .ascending => "ASC"
  | .between => "BETWEEN"
  | .by => "BY"
  | .default => "DEFAULT"
  | .delete => "DELETE"
  | .descending => "DESC"
  | .dual => "DUAL"
  | .fetch => "FETCH"
  | .from => "FROM"
  | .id => "id"
  | .ilike => "ILIKE"
  | .in => "IN"
  | .insert => "INSERT"
  | .into => "INTO"
  | .is => "IS"
  | .join => "JOIN"
  | .jsonb => "jsonb"
  | .jsonContains => "JSON_CONTAINS"
  | .jsonOverlaps => "JSON_OVERLAPS"
  | .left => "LEFT"
  | .like => "LIKE"
  | .limit => "LIMIT"
  | .lower => "LOWER"
  | .money => "money"
  | .next => "NEXT"
  | .not => "NOT"
  | .null => "NULL"
  | .numeric => "numeric"
  | .offset => "OFFSET"
  | .on => "ON"
  | .only => "ONLY"
  | .or => "OR"
  | .order => "ORDER"
  | .returning => "RETURNING"
  | .rows => "ROWS"
  | .scopeIdentity => "SCOPE_IDENTITY"
  | .select => "SELECT"
  | .set => "SET"
  | .top => "TOP"
  | .update => "UPDATE"
  | .values => "VALUES"
  | .where => "WHERE"

/-- The punctuation and the operators of the vocabulary. -/
inductive Mark where
  | open | close | openBracket | closeBracket | comma | dot | star | semicolon
  | equal | notEqual | less | greater | cast | contains | hasAny
  deriving DecidableEq

def Mark.text : Mark → String
  | .open => "("
  | .close => ")"
  | .openBracket => "["
  | .closeBracket => "]"
  | .comma => ","
  | .dot => "."
  | .star => "*"
  | .semicolon => ";"
  | .equal => "="
  | .notEqual => "!="
  | .less => "<"
  | .greater => ">"
  | .cast => "::"
  | .contains => "@>"
  | .hasAny => "?|"

inductive Token where
  | word (w : Word)
  | mark (m : Mark)
  | space
  | number (n : Nat)
  /-- A quoted identifier. -/
  | name (s : String)
  /-- A placeholder and the value bound to it. -/
  | bound (v : Value)
  deriving DecidableEq

end Polyquery.Sql

namespace Polyquery

/-- SQL text before its dialect writes it. -/
abbrev Sql := List Sql.Token

namespace Sql

/-- Words with blanks between them. -/
def words (list : List Word) : Sql := Text.intersperse [.space] (list.map fun w => [.word w])

/-- Parts with a comma and a blank between them. -/
def commas (parts : List Sql) : Sql := Text.intersperse [.mark .comma, .space] parts

/-- Parts in parentheses. -/
def parenthesized (inner : Sql) : Sql := .mark .open :: inner ++ [.mark .close]

/-- A dotted path, one identifier for each segment. -/
def path (name : String) : Sql :=
  Text.intersperse [.mark .dot]
    ((Text.segments '.' name.toList).map fun segment => [.name (String.ofList segment)])

/-- The values behind the placeholders, from left to right. -/
def bindings (sql : Sql) : List Value :=
  sql.filterMap fun
    | .bound v => some v
    | _ => none

theorem bindings_append (a b : Sql) : bindings (a ++ b) = bindings a ++ bindings b := by
  simp [bindings]

end Sql
end Polyquery
