import ScimQuery.Store.Eval
import ScimQuery.Sql.Render

/-! # Preparing queries

A query is checked before it runs, as SQLite prepares a statement. The tables come first:
those of the FROM clause and its joins in order, then those of the subqueries in the
order their expressions are met (select list, WHERE, ON conditions, GROUP BY, ORDER BY).
Then the names: each function must exist with its number of arguments, and each column
must be found, innermost query first, in the order select list, WHERE, ON conditions,
ORDER BY, GROUP BY; a subquery is checked before the expression it is compared with.
-/

namespace ScimQuery.Store

open Sql

/-- The expressions of a query in the order their subqueries' tables are looked up. -/
def tableOrder (q : Query) : List Expr :=
  q.select.map (·.1) ++ q.filter.toList ++ q.joins.map (·.2.2) ++ q.groupBy ++ q.orderBy.map (·.1)

/-- The expressions of a query in the order their names are resolved. -/
def nameOrder (q : Query) : List Expr :=
  q.select.map (·.1) ++ q.filter.toList ++ q.joins.map (·.2.2) ++ q.orderBy.map (·.1) ++ q.groupBy

/-- The direct subexpressions of an expression, left to right. -/
def children : Expr → List Expr
  | .binary l _ r => [l, r]
  | .not e | .paren e | .isNull e _ => [e]
  | .function _ args _ => args
  | .inList e vs _ => e :: vs
  | .inQuery e _ _ => [e]
  | .like e p _ _ => [e, p]
  | _ => []

mutual

/-- Looks up the tables of a query and of its subqueries. -/
def checkTables (db : Database) : Nat → Query → Except String Unit
  | 0, _ => .error tooDeep
  | fuel + 1, q => do
    for r in q.source.toList ++ q.joins.map (·.2.1) do
      if (db.table? r.table).isNone then throw ("no such table: " ++ r.table)
    checkTablesIn db fuel (tableOrder q)

/-- Looks up the tables of the subqueries of expressions, left to right. -/
def checkTablesIn (db : Database) : Nat → List Expr → Except String Unit
  | 0, _ => .error tooDeep
  | _ + 1, [] => .ok ()
  | fuel + 1, e :: es => do
    match e with
    | .inQuery inner q _ => do
      checkTablesIn db fuel [inner]
      checkTables db fuel q
    | _ => checkTablesIn db fuel (children e)
    checkTablesIn db fuel es

end

mutual

/-- Resolves the names of a query within the scopes around it; `levels` counts the
bindings of each enclosing query, innermost first. -/
def checkNames (db : Database) : Nat → Scope → List Nat → Query → Except String Unit
  | 0, _, _, _ => .error tooDeep
  | fuel + 1, outer, levels, q =>
    let scope := emptyScope db q ++ outer
    checkNamesIn db fuel scope (bindingCount q :: levels) (nameOrder q)

/-- Resolves the names of expressions, left to right. -/
def checkNamesIn (db : Database) : Nat → Scope → List Nat → List Expr → Except String Unit
  | 0, _, _, _ => .error tooDeep
  | _ + 1, _, _, [] => .ok ()
  | fuel + 1, scope, levels, e :: es => do
    match e with
    | .column t n => scope.resolve levels t n
    | .function name args _ =>
      match functionKnown name args.length with
      | none => throw ("no such function: " ++ name)
      | some false => throw ("wrong number of arguments to function " ++ name ++ "()")
      | some true => checkNamesIn db fuel scope levels args
    | .inQuery inner q _ => do
      checkNames db fuel scope levels q
      checkNamesIn db fuel scope levels [inner]
    | _ => checkNamesIn db fuel scope levels (children e)
    checkNamesIn db fuel scope levels es

end

/-- A depth that bounds every nesting of a query: each nested expression or query adds
at least one token to its text. -/
def depthOf (q : Query) : Nat := 2 * (q.tokens .sqlite).length + 8

/-- Prepares and runs a query. -/
def runQuery (db : Database) (q : Query) : Except String (List (List Cell)) := do
  let fuel := depthOf q
  checkTables db fuel q
  checkNames db fuel [] [] q
  evalQuery db fuel q

end ScimQuery.Store
