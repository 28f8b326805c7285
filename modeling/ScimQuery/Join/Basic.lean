import ScimQuery.Sql.Build

/-! # Tables and joins of a resource

A table reference is a physical table under an alias. A join descriptor says how a
target table is reached from a source table: by equality of a source column and a target
column, as an inner or a left outer join, and whether the target may hold many rows per
source row. Two descriptors are the same join when source, target and both columns
agree; the flags do not count.
-/

namespace ScimQuery

/-- A physical table under an alias. -/
structure TableReference where
  table : String
  aliasName : String
deriving DecidableEq, Repr, Inhabited

namespace TableReference

/-- `TABLE alias`. -/
def render (t : TableReference) : String := t.table ++ " " ++ t.aliasName

/-- A column of the table, under its alias. -/
def column (t : TableReference) (name : String) : Sql.Expr := Sql.Expr.col t.aliasName name

/-- The table with its alias in a FROM or JOIN clause. -/
def toRef (t : TableReference) : Sql.TableRef := { table := t.table, aliasName := some t.aliasName }

end TableReference

/-- How a target table is joined to a source table. -/
structure JoinDescriptor where
  source : TableReference
  sourceColumn : String
  target : TableReference
  targetColumn : String
  outer : Bool := false
  toMany : Bool := false
deriving Repr, Inhabited

namespace JoinDescriptor

/-- What makes two descriptors the same join. -/
def identity (j : JoinDescriptor) : TableReference × TableReference × String × String :=
  (j.source, j.target, j.sourceColumn, j.targetColumn)

/-- Whether two descriptors are the same join. -/
def same (a b : JoinDescriptor) : Bool := a.identity = b.identity

theorem same_iff (a b : JoinDescriptor) : a.same b = true ↔ a.identity = b.identity := by
  simp [same]

theorem same_self (a : JoinDescriptor) : a.same a = true := by
  simp [same]

theorem same_comm (a b : JoinDescriptor) : a.same b = b.same a := by
  simp only [same, eq_comm]

theorem same_trans {a b c : JoinDescriptor} (hab : a.same b = true) (hbc : b.same c = true) :
    a.same c = true := by
  rw [same_iff] at *
  exact hab.trans hbc

/-- `src.col -> tgt.col (TABLE)`. -/
def render (j : JoinDescriptor) : String :=
  j.source.aliasName ++ "." ++ j.sourceColumn ++ " -> " ++ j.target.aliasName ++ "." ++ j.targetColumn ++
    " (" ++ j.target.table ++ ")"

/-- The JOIN clause: left for an outer join, inner otherwise, on equal columns. -/
def toJoin (j : JoinDescriptor) : Sql.JoinKind × Sql.TableRef × Sql.Expr :=
  (if j.outer then .left else .inner, j.target.toRef,
    Sql.Expr.eq (j.source.column j.sourceColumn) (j.target.column j.targetColumn))

end JoinDescriptor

end ScimQuery
