import Polyquery.Compile.Plan
import Polyquery.Sql.Rendering

/-! Compiled statements: text with placeholders, and the values bound to them. -/
namespace Polyquery
open Sql

/-- A statement as a driver takes it. -/
structure Compiled where
  text : String
  /-- In the order of the placeholders. -/
  bindings : List Value
  operation : Operation
  yieldsRows : Bool
  deriving DecidableEq

/-- The number of rows a read may return, unless settings say otherwise. -/
def defaultRowCap : Nat := 5000

/-- A dialect with the choices that compiling needs. -/
structure Compiler where
  dialect : Dialect
  rowCap : Nat
  /-- Writes never return rows, even where the dialect could. -/
  withoutReturning : Bool

namespace Compiler

def of (dialect : Dialect) (rowCap : Nat) : Compiler := ⟨dialect, rowCap, false⟩

/-- Whether writes are compiled to return their rows. -/
def returning (compiler : Compiler) : Bool :=
  compiler.dialect.returnsRows && !compiler.withoutReturning

/-- The text of a statement with its bindings. -/
def write (compiler : Compiler) (operation : Operation) (statement : Statement) : Compiled :=
  let rendered := (statement.render compiler.dialect).run .none
  ⟨String.ofList rendered.1, rendered.2.values.toList, operation,
    statement.yieldsRows compiler.dialect⟩

/-- Compile a query. -/
def compile (compiler : Compiler) (query : Query) : Except Error Compiled :=
  (query.plan compiler.dialect compiler.rowCap compiler.returning).map
    (compiler.write query.operation)

end Compiler

/-- The line that a statement leaves in the log. -/
def Compiled.logLine (statement : Compiled) (dialect : Dialect) : String :=
  let name := String.ofList (dialect.name.toList.map Char.toUpper)
  "[SQL] [" ++ name ++ "] query=\"" ++ statement.text ++ "\" values=\"" ++
    ", ".intercalate (statement.bindings.map Value.display) ++ "\""

end Polyquery
