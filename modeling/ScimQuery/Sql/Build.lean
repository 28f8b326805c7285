import ScimQuery.Sql.Syntax

/-! # Building SQL trees

Small constructors for the trees the library generates. `Expr.negate` puts its operand
in parentheses unless it already is a parenthesized expression, so that `NOT` always
applies to a whole parenthesized condition; `Query.andWhere` adds a condition to the
WHERE clause with `AND`, after those already there.
-/

namespace ScimQuery.Sql

namespace Expr

/-- A column of an aliased table. -/
def col (table column : String) : Expr := .column (some table) column

/-- `l op r`. -/
def bin (l : Expr) (op : BinOp) (r : Expr) : Expr := .binary l op r

/-- `l = r`. -/
def eq (l r : Expr) : Expr := .binary l .eq r

/-- `l AND r`, without parentheses. -/
def and (l r : Expr) : Expr := .binary l .and r

/-- `l OR r`, without parentheses. -/
def or (l r : Expr) : Expr := .binary l .or r

/-- `NOT (e)`: parenthesizes the operand unless it is already parenthesized. -/
def negate (e : Expr) : Expr :=
  match e with
  | .paren _ => .not e
  | _ => .not (.paren e)

/-- A call of a function without DISTINCT. -/
def call (name : String) (args : List Expr) : Expr := .function name args false

/-- `LOWER(e)`. -/
def lower (e : Expr) : Expr := call "LOWER" [e]

/-- `MIN(e)`. -/
def min (e : Expr) : Expr := call "MIN" [e]

/-- `MAX(e)`. -/
def max (e : Expr) : Expr := call "MAX" [e]

/-- `COUNT(e)`. -/
def count (e : Expr) : Expr := call "COUNT" [e]

/-- `COUNT(*)`. -/
def countStar : Expr := call "COUNT" [.star none]

/-- `COUNT(DISTINCT e)`. -/
def countDistinct (e : Expr) : Expr := .function "COUNT" [e] true

end Expr

/-- Adds a condition to the WHERE clause, joined to an existing one by `AND`. -/
def Query.andWhere (q : Query) (cond : Expr) : Query :=
  { q with filter := some (match q.filter with
      | some existing => existing.and cond
      | none => cond) }

/-- Sets the limit, keeping the offset. -/
def Query.withLimit (q : Query) (limit : Nat) : Query :=
  { q with paging := some { (q.paging.getD {}) with limit := some limit } }

/-- Sets the offset, keeping the limit. -/
def Query.withOffset (q : Query) (offset : Nat) : Query :=
  { q with paging := some { (q.paging.getD {}) with offset := some offset } }

end ScimQuery.Sql
