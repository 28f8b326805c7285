import ScimQuery.Sql.Value
import ScimQuery.Attribute.Kind

/-! # Catalog declarations

A catalog declares, for each SCIM resource type, its root table and the tenant column,
the static restrictions every row must meet, the further tables and the named joins that
reach them, the attributes and the columns that hold them, and the associations whose
rows are fetched separately for the resources of a page.
-/

namespace ScimQuery

/-- A table under an alias. -/
structure TableDecl where
  table : String
  aliasName : String
deriving Inhabited

/-- The test of a static restriction. -/
inductive RestrictionOp where
  | isNull
  | isNotNull
  | eq
deriving DecidableEq, Repr, Inhabited

/-- A condition every row of the root table must meet. -/
structure RestrictionDecl where
  column : String
  op : RestrictionOp
  value : Option Sql.Value := none
deriving Inhabited

/-- A named join between two declared aliases. -/
structure JoinDecl where
  name : String
  source : String
  sourceColumn : String
  target : String
  targetColumn : String
  outer : Bool := false
  toMany : Bool := false
deriving Inhabited

/-- An attribute and the column that holds it, reached through named joins. -/
structure AttributeDecl where
  schema : Option String := none
  parent : Option String := none
  name : String
  table : Option String := none
  column : String
  kind : AttributeKind := .string
  caseExact : Bool := false
  joins : List String := []
deriving Inhabited

/-- A labelled column of an association. -/
structure AssociationColumnDecl where
  label : String
  table : String
  column : String
deriving Inhabited

/-- An association: rows reached through named joins, reported as a collection. -/
structure AssociationDecl where
  name : String
  joins : List String
  columns : List AssociationColumnDecl
deriving Inhabited

/-- The declaration of one resource type. -/
structure ResourceDecl where
  name : String
  endpoint : Option String := none
  schema : String
  extensions : List String := []
  root : TableDecl
  idColumn : String := "ID"
  tenantColumn : String
  restrictions : List RestrictionDecl := []
  tables : List TableDecl := []
  joins : List JoinDecl := []
  attributes : List AttributeDecl := []
  associations : List AssociationDecl := []
deriving Inhabited

/-- A catalog: the declared resource types in order. -/
structure CatalogDecl where
  resources : List ResourceDecl := []
deriving Inhabited

end ScimQuery
