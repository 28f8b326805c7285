import ScimQuery.Join.Basic
import ScimQuery.Attribute.Kind

/-! # Attribute locations

Where an attribute lives: its schema, parent and name, the table and column that hold it,
the joins that reach that table from the root, its type and whether it compares with
regard to case. An attribute is multi-valued when one of its joins may yield many rows,
and it folds case when it is textual and not case-exact.
-/

namespace ScimQuery

/-- Where an attribute lives. -/
structure AttributeLocation where
  schemaUri : String
  parent : Option String
  name : String
  table : TableReference
  column : String
  requiredJoins : List JoinDescriptor
  kind : AttributeKind
  caseExact : Bool
deriving Inhabited

namespace AttributeLocation

/-- Whether one of the joins may yield many rows. -/
def multiValued (a : AttributeLocation) : Bool := a.requiredJoins.any (·.toMany)

/-- `parent.name`, or `name`. -/
def fullName (a : AttributeLocation) : String :=
  match a.parent with
  | some p => p ++ "." ++ a.name
  | none => a.name

/-- `schema:parent.name`. -/
def qualifiedName (a : AttributeLocation) : String := a.schemaUri ++ ":" ++ a.fullName

/-- The column, under its table's alias. -/
def columnExpr (a : AttributeLocation) : Sql.Expr := a.table.column a.column

/-- Whether comparisons ignore case: textual and not case-exact. -/
def foldsCase (a : AttributeLocation) : Bool := a.kind.isTextual && !a.caseExact

/-- `qualified -> alias.column (type)`. -/
def render (a : AttributeLocation) : String :=
  a.qualifiedName ++ " -> " ++ a.table.aliasName ++ "." ++ a.column ++ " (" ++ a.kind.name ++ ")"

end AttributeLocation

/-- A labelled column of an association. -/
structure AssociationColumn where
  label : String
  table : TableReference
  column : String
deriving Inhabited

/-- An association: the joins that reach its rows and its labelled columns. -/
structure Association where
  name : String
  joins : List JoinDescriptor
  columns : List AssociationColumn
deriving Inhabited

end ScimQuery
