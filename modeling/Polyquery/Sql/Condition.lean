import Polyquery.Sql.Grammar

/-! Conditions of a WHERE clause: a tree of predicates, and its tokens. Every
value of a predicate is bound, none is written. -/
namespace Polyquery.Sql

/-- A column, with the name or alias of its table. -/
structure ColumnRef where
  table : Option String
  column : String
  deriving DecidableEq

def ColumnRef.sql (ref : ColumnRef) : Sql :=
  match ref.table with
  | some table => path table ++ .mark .dot :: path ref.column
  | none => path ref.column

inductive Connective where
  | and
  | or
  deriving DecidableEq

def Connective.word : Connective → Word
  | .and => .and
  | .or => .or

/-- Parts with the connective between them. -/
def Connective.join (op : Connective) (parts : List Sql) : Sql :=
  Text.intersperse [.space, .word op.word, .space] parts

inductive Comparison where
  | equal
  | notEqual
  | greater
  | less
  deriving DecidableEq

def Comparison.mark : Comparison → Mark
  | .equal => .equal
  | .notEqual => .notEqual
  | .greater => .greater
  | .less => .less

/-- The JSON functions: every element is there, or at least one. -/
inductive JsonFunction where
  | contains
  | overlaps
  deriving DecidableEq

def JsonFunction.word : JsonFunction → Word
  | .contains => .jsonContains
  | .overlaps => .jsonOverlaps

inductive Predicate where
  | oneOf (column : ColumnRef) (values : List Value)
  | compare (column : ColumnRef) (op : Comparison) (value : Value)
  | between (column : ColumnRef) (low high : Value)
  | isNull (column : ColumnRef) (negated : Bool)
  | like (column : ColumnRef) (pattern : Value)
  | containsJson (column : ColumnRef) (document : Value)
  | hasAny (column : ColumnRef) (values : List Value)
  | jsonFunction (column : ColumnRef) (function : JsonFunction) (document : Value)
  | group (op : Connective) (parts : List Predicate)
  | not (inner : Predicate)

/-- A group of several parts stands in parentheses of its own. -/
def Predicate.parenthesizes : Predicate → Bool
  | .group _ (_ :: _ :: _) => true
  | _ => false

def boundList (values : List Value) : Sql := commas (values.map fun v => [.bound v])

mutual
/-- The tokens of a predicate. An empty list of values matches nothing. -/
def Predicate.sql (dialect : Dialect) : Predicate → Sql
  | .oneOf _ [] => [.number 1, .space, .mark .equal, .space, .number 0]
  | .oneOf column values =>
    column.sql ++ .space :: .word .in :: .space :: parenthesized (boundList values)
  | .compare column op value =>
    column.sql ++ [.space, .mark op.mark, .space, .bound value]
  | .between column low high =>
    column.sql ++ [.space, .word .between, .space, .bound low, .space, .word .and, .space, .bound high]
  | .isNull column negated =>
    column.sql ++ .space :: words (if negated then [.is, .not, .null] else [.is, .null])
  | .like column pattern => dialect.matching column.sql [.bound pattern]
  | .containsJson column document =>
    column.sql ++ [.mark .cast, .word .jsonb, .space, .mark .contains, .space, .bound document,
      .mark .cast, .word .jsonb]
  | .hasAny column values =>
    column.sql ++ [.mark .cast, .word .jsonb, .space, .mark .hasAny, .space, .word .array,
      .mark .openBracket] ++ boundList values ++ [.mark .closeBracket]
  | .jsonFunction column function document =>
    .word function.word :: parenthesized (commas [column.sql, [.bound document]])
  | .group op parts =>
    match partsSql dialect parts with
    | [only] => only
    | several => parenthesized (op.join several)
  | .not inner =>
    .word .not :: .space ::
      (if inner.parenthesizes then inner.sql dialect else parenthesized (inner.sql dialect))

/-- The tokens of each predicate. -/
def partsSql (dialect : Dialect) : List Predicate → List Sql
  | [] => []
  | part :: rest => part.sql dialect :: partsSql dialect rest
end

/-- Predicates under one connective. -/
structure Condition where
  op : Connective
  parts : List Predicate

namespace Condition

/-- The condition that asks for nothing. -/
def none : Condition := ⟨.and, []⟩

def isEmpty (condition : Condition) : Bool := condition.parts.isEmpty

/-- The conjunction of two conditions, each under its own connective. A
condition that asks for nothing is dropped. -/
def and (a b : Condition) : Condition :=
  if a.isEmpty then b
  else if b.isEmpty then a
  else ⟨.and, [.group a.op a.parts, .group b.op b.parts]⟩

def sql (dialect : Dialect) (condition : Condition) : Sql :=
  condition.op.join (partsSql dialect condition.parts)

/-- The condition behind `WHERE`, with a blank in front; nothing without one. -/
def clause (dialect : Dialect) (condition : Condition) : Sql :=
  if condition.isEmpty then [] else .space :: .word .where :: .space :: condition.sql dialect

end Condition
end Polyquery.Sql
