import Polyquery.Proofs.Rendering
import Polyquery.Proofs.Running

/-! Dialects that agree. Two dialects with one grammar and the same abilities cannot
be told apart: a query has the same plan in both, the plan has the same text and
values, and a conversation about it goes the same way whatever it is answered. So it
is with MariaDB and MySQL, which speak the same dialect over the wire. -/
namespace Polyquery
open Sql

/-- Two dialects that write alike and can do the same. -/
structure Dialect.Agrees (a b : Dialect) : Prop where
  quoteName : a.quoteName = b.quoteName
  placeholder : a.placeholder = b.placeholder
  aliased : a.aliased = b.aliased
  limitInFront : a.limitInFront = b.limitInFront
  limitBehind : a.limitBehind = b.limitBehind
  defaultRow : a.defaultRow = b.defaultRow
  missingCell : a.missingCell = b.missingCell
  insertRows : a.insertRows = b.insertRows
  keySelection : a.keySelection = b.keySelection
  returnsRows : a.returnsRows = b.returnsRows
  ignoresCase : a.ignoresCase = b.ignoresCase
  containment : a.containment = b.containment
  ordersPages : a.ordersPages = b.ordersPages
  sortsOutside : a.sortsOutside = b.sortsOutside
  insertsDefaults : a.insertsDefaults = b.insertsDefaults
  castsMoney : a.castsMoney = b.castsMoney
  generatedKey : a.generatedKey = b.generatedKey
  /-- The refusal of an empty row names its dialect. -/
  refusal : a.insertsDefaults = false → a = b

theorem mariadb_agrees_mysql : Dialect.Agrees .mariadb .mysql where
  quoteName := rfl
  placeholder := rfl
  aliased := rfl
  limitInFront := rfl
  limitBehind := rfl
  defaultRow := rfl
  missingCell := rfl
  insertRows := by
    funext target columns tuples
    simp [Dialect.insertRows]
  keySelection := rfl
  returnsRows := rfl
  ignoresCase := rfl
  containment := rfl
  ordersPages := rfl
  sortsOutside := rfl
  insertsDefaults := rfl
  castsMoney := rfl
  generatedKey := rfl
  refusal := nofun

namespace Dialect.Agrees
variable {a b : Dialect} (agree : a.Agrees b)
include agree

/-! ## Writing -/

theorem token_write (index : Nat) (token : Token) : token.write a index = token.write b index := by
  cases token with
  | name s => simp only [Token.write, agree.quoteName]
  | bound v => simp only [Token.write, agree.placeholder]
  | word | mark | space | number => rfl

theorem writeFrom (index : Nat) (sql : Sql) : writeFrom a index sql = writeFrom b index sql := by
  induction sql generalizing index with
  | nil => rfl
  | cons token rest ih => simp only [Sql.writeFrom, agree.token_write, ih]

theorem write (sql : Sql) : sql.write a = sql.write b := by
  simp only [Sql.write, agree.writeFrom]

/-! ## Statements -/

theorem matching : a.matching = b.matching := by
  funext column pattern
  simp only [Dialect.matching, agree.ignoresCase]

theorem predicate_sql (p : Predicate) : p.sql a = p.sql b := by
  induction p using Predicate.induction with
  | leaf p leaf =>
    cases p with
    | oneOf column values => cases values <;> rfl
    | like column pattern => simp only [Predicate.sql, agree.matching]
    | group | not => cases leaf
    | _ => rfl
  | group op parts ih =>
    have same : partsSql a parts = partsSql b parts := by
      simp only [partsSql_eq_map]
      exact List.map_congr_left ih
    simp only [Predicate.sql, same]
  | not inner ih => simp only [sql_not, ih]

theorem clause (condition : Condition) : condition.clause a = condition.clause b := by
  simp only [Condition.clause, condition_sql, agree.predicate_sql]

theorem table_sql (table : TableRef) : table.sql a = table.sql b := by
  simp only [TableRef.sql, agree.aliased]

theorem clauses_sql (clauses : Clauses) (source : Sql) : clauses.sql a source = clauses.sql b source := by
  simp only [Clauses.sql, Join.sql, agree.limitInFront, agree.limitBehind, agree.table_sql,
    agree.clause]

theorem select_sql (read : Select) : read.sql a = read.sql b := by
  induction read with
  | table source clauses => simp only [Select.sql, agree.clauses_sql, agree.table_sql]
  | derived inner label clauses ih => simp only [Select.sql, agree.clauses_sql, agree.aliased, ih]

theorem tupleSql : Insert.tupleSql a = Insert.tupleSql b := by
  funext row
  simp only [Insert.tupleSql, agree.missingCell]

theorem insert_sql (write : Insert) : write.sql a = write.sql b := by
  simp only [Insert.sql, agree.table_sql, agree.defaultRow, agree.insertRows, agree.tupleSql,
    agree.keySelection]

/-- One statement has the same tokens in both dialects. -/
theorem statement_sql (statement : Statement) : statement.sql a = statement.sql b := by
  cases statement with
  | select read => exact agree.select_sql read
  | insert write => exact agree.insert_sql write
  | update write => simp only [Statement.sql, Update.sql, agree.table_sql, agree.clause]
  | delete write => simp only [Statement.sql, Delete.sql, agree.table_sql, agree.clause]

theorem yieldsRows (statement : Statement) : statement.yieldsRows a = statement.yieldsRows b := by
  cases statement <;> simp only [Statement.yieldsRows, agree.keySelection]

/-! ## Plans -/

theorem predicate? (column : ColumnRef) (test : Test Value) :
    test.predicate? a column = test.predicate? b column := by
  cases test with
  | string | fuzzy => simp only [Test.predicate?, textPredicate, agree.ignoresCase]
  | contains | notContains | containsAny =>
    simp only [Test.predicate?, Polyquery.containment, agree.containment]
  | equal value | notEqual value => cases value <;> rfl
  | oneOf | range | empty | notEmpty => rfl

theorem condition (query : Query) : query.condition a = query.condition b := by
  funext pass aliases
  have same (scope : Scope) : Filter.predicate? a scope = Filter.predicate? b scope := by
    funext filter
    simp only [Filter.predicate?, agree.predicate?]
  simp only [Query.condition, Filters.condition, same]

theorem projection (query : Query) : query.projection a = query.projection b := by
  simp only [Query.projection, agree.castsMoney]

theorem order (query : Query) : query.order a = query.order b := by
  simp only [Query.order, agree.ordersPages]

theorem select (query : Query) : query.select a = query.select b := by
  funext cap
  simp only [Query.select, Query.page, Select.sorted, agree.condition, agree.projection, agree.order,
    agree.sortsOutside]

theorem insert (query : Query) : query.insert a = query.insert b := by
  funext returning
  -- Only where an empty row is refused is the dialect part of the result.
  cases able : a.insertsDefaults with
  | false => rw [agree.refusal able]
  | true =>
    have alsoAble : b.insertsDefaults = true := agree.insertsDefaults ▸ able
    simp only [Query.insert, able, alsoAble, agree.generatedKey, Bool.not_true, Bool.and_false,
      Bool.false_eq_true, ↓reduceIte]

theorem update (query : Query) : query.update a = query.update b := by
  funext returning
  simp only [Query.update, agree.condition]

theorem delete (query : Query) : query.delete a = query.delete b := by
  funext returning
  simp only [Query.delete, agree.condition, agree.projection]

/-- A query has one plan in both dialects, or is refused by both for one reason. -/
theorem plan (query : Query) : query.plan a = query.plan b := by
  funext cap returning
  simp only [Query.plan, agree.select, agree.insert, agree.update, agree.delete]

/-- A query compiles to one statement in both dialects. -/
theorem compile (cap : Nat) (withoutReturning : Bool) :
    (Compiler.mk a cap withoutReturning).compile = (Compiler.mk b cap withoutReturning).compile := by
  have written : (Compiler.mk a cap withoutReturning).write =
      (Compiler.mk b cap withoutReturning).write := by
    funext operation statement
    simp only [Compiler.write_eq, agree.statement_sql, agree.write, agree.yieldsRows]
  funext query
  simp only [Compiler.compile, Compiler.returning, agree.plan, agree.returnsRows, written]

/-! ## Conversations -/

theorem identity? (query : Query) : query.identity? a = query.identity? b := by
  funext response
  simp only [Query.identity?, Query.generatedKey?, agree.generatedKey]

/-- A query is talked about in one way in both dialects. -/
theorem conversation (query : Query) (cap : Nat) (process : List Row → List Row) :
    query.conversation a cap process = query.conversation b cap process := by
  simp only [Query.conversation, Query.converse, Query.emulated, Compiler.of, agree.compile,
    agree.returnsRows, agree.identity?]

end Dialect.Agrees

/-- MariaDB and MySQL are one dialect: every query compiles to the same statement or
is refused for the same reason, and whatever an executor does, a run on the two
issues the same statements in the same order and ends in the same result. -/
theorem mariadb_speaks_mysql (query : Query) (cap : Nat) :
    (∀ withoutReturning, (Compiler.mk .mariadb cap withoutReturning).compile query =
      (Compiler.mk .mysql cap withoutReturning).compile query) ∧
    ∀ (process : List Row → List Row) {S : Type} (serve : S → Compiled → Except Error Response × S)
      (start : S), (query.conversation .mariadb cap process).run serve start =
        (query.conversation .mysql cap process).run serve start := by
  have agree := mariadb_agrees_mysql
  constructor
  · intro withoutReturning
    rw [agree.compile]
  · intro process S serve start
    rw [agree.conversation]

end Polyquery
