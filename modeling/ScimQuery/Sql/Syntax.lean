import ScimQuery.Sql.Value

/-! # SQL expressions and queries

The syntax tree of the SQL that is generated: expressions with columns, literals,
parameters, comparisons, logical connectives, function calls, membership in a list or
in a subquery, NULL tests and LIKE patterns; and SELECT queries with a source table,
joins, a WHERE condition, grouping, ordering and a page. Parentheses are explicit
nodes, so a tree says exactly where the text has them.
-/

namespace ScimQuery.Sql

/-- A table in a FROM or JOIN clause, with an optional schema and alias. -/
structure TableRef where
  schema : Option String := none
  table : String
  aliasName : Option String := none
deriving Inhabited

/-- A literal constant. -/
inductive Literal where
  /-- a signed 64-bit integer -/
  | int (n : Int)
  | float (x : Float)
  | string (s : String)
  | bool (b : Bool)
  | null
deriving Inhabited

/-- The binary operators: comparisons and the two connectives. -/
inductive BinOp where
  | eq | ne | lt | gt | lte | gte | and | or
deriving DecidableEq, Repr

/-- Whether an operator compares two values. -/
def BinOp.isComparison : BinOp → Bool
  | .and | .or => false
  | _ => true

/-- Inner or left outer join. -/
inductive JoinKind where
  | inner
  | left
deriving DecidableEq, Repr

/-- The direction of an ORDER BY item. -/
inductive SortDir where
  | asc
  | desc
deriving DecidableEq, Repr

/-- A page of results: at most `limit` rows after skipping `offset`; both are unsigned
64-bit numbers and either may be left out. -/
structure Paging where
  limit : Option Nat := none
  offset : Option Nat := none
deriving Inhabited

mutual

/-- A SQL expression. -/
inductive Expr where
  | column (table : Option String) (name : String)
  | literal (l : Literal)
  | param (v : Value)
  | binary (left : Expr) (op : BinOp) (right : Expr)
  /-- `NOT e`, with no parentheses of its own -/
  | not (e : Expr)
  | function (name : String) (args : List Expr) (distinct : Bool)
  /-- `e IN (values)`; with no values it is the constant `FALSE` (`TRUE` when negated) -/
  | inList (e : Expr) (values : List Expr) (negated : Bool)
  | inQuery (e : Expr) (query : Query) (negated : Bool)
  | isNull (e : Expr) (negated : Bool)
  | like (e : Expr) (pattern : Expr) (escape : Char) (negated : Bool)
  | star (table : Option String)
  | paren (e : Expr)

/-- A SELECT query. -/
structure Query where
  select : List (Expr × Option String) := []
  source : Option TableRef := none
  joins : List (JoinKind × TableRef × Expr) := []
  filter : Option Expr := none
  groupBy : List Expr := []
  orderBy : List (Expr × Option SortDir) := []
  paging : Option Paging := none

end

instance : Inhabited Expr := ⟨.star none⟩
instance : Inhabited Query := ⟨{}⟩

end ScimQuery.Sql
