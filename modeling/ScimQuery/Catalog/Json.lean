import ScimQuery.Catalog.Declaration
import ScimQuery.Json.Decode
import ScimQuery.Sql.Json

/-! # Catalog declarations as JSON

A catalog is read from a JSON document of the same shape as its declaration, with the
field names in snake case and the attribute type under `type`, or as sequences of field
values. Lists default to empty,
`id_column` to `ID`, the join flags to false and the attribute type to `string`.
-/

namespace ScimQuery

open Json

/-- Reads a table under an alias. -/
def TableDecl.ofJson? (j : Json) : Option TableDecl := do
  let j ← record? ["table", "alias"] j
  pure ⟨← required j "table" str?, ← required j "alias" str?⟩

/-- Reads the test of a restriction. -/
def RestrictionOp.ofName? : String → Option RestrictionOp
  | "is_null" => some .isNull
  | "is_not_null" => some .isNotNull
  | "eq" => some .eq
  | _ => none

/-- Reads a restriction. -/
def RestrictionDecl.ofJson? (j : Json) : Option RestrictionDecl := do
  let j ← record? ["column", "op", "value"] j
  pure { column := ← required j "column" str?,
         op := ← required j "op" (fun v => v.tag? >>= RestrictionOp.ofName?),
         value := ← optional j "value" Sql.Value.ofJson? }

/-- Reads a named join. -/
def JoinDecl.ofJson? (j : Json) : Option JoinDecl := do
  let j ← record? ["name", "source", "source_column", "target", "target_column", "outer", "to_many"] j
  pure { name := ← required j "name" str?, source := ← required j "source" str?,
         sourceColumn := ← required j "source_column" str?,
         target := ← required j "target" str?,
         targetColumn := ← required j "target_column" str?,
         outer := ← withDefault j "outer" bool? false,
         toMany := ← withDefault j "to_many" bool? false }

/-- Reads an attribute. -/
def AttributeDecl.ofJson? (j : Json) : Option AttributeDecl := do
  let j ← record? ["schema", "parent", "name", "table", "column", "type", "case_exact", "joins"] j
  pure { schema := ← optional j "schema" str?, parent := ← optional j "parent" str?,
         name := ← required j "name" str?, table := ← optional j "table" str?,
         column := ← required j "column" str?,
         kind := ← withDefault j "type" (fun v => v.tag? >>= AttributeKind.ofDeclared?) .string,
         caseExact := ← withDefault j "case_exact" bool? false,
         joins := ← withDefault j "joins" (list str?) [] }

/-- Reads an association column. -/
def AssociationColumnDecl.ofJson? (j : Json) : Option AssociationColumnDecl := do
  let j ← record? ["label", "table", "column"] j
  pure ⟨← required j "label" str?, ← required j "table" str?, ← required j "column" str?⟩

/-- Reads an association. -/
def AssociationDecl.ofJson? (j : Json) : Option AssociationDecl := do
  let j ← record? ["name", "joins", "columns"] j
  pure { name := ← required j "name" str?, joins := ← required j "joins" (list str?),
         columns := ← required j "columns" (list AssociationColumnDecl.ofJson?) }

/-- Reads a resource declaration. -/
def ResourceDecl.ofJson? (j : Json) : Option ResourceDecl := do
  let j ← record? ["name", "endpoint", "schema", "extensions", "root", "id_column", "tenant_column",
    "restrictions", "tables", "joins", "attributes", "associations"] j
  pure { name := ← required j "name" str?, endpoint := ← optional j "endpoint" str?,
         schema := ← required j "schema" str?,
         extensions := ← withDefault j "extensions" (list str?) [],
         root := ← required j "root" TableDecl.ofJson?,
         idColumn := ← withDefault j "id_column" str? "ID",
         tenantColumn := ← required j "tenant_column" str?,
         restrictions := ← withDefault j "restrictions" (list RestrictionDecl.ofJson?) [],
         tables := ← withDefault j "tables" (list TableDecl.ofJson?) [],
         joins := ← withDefault j "joins" (list JoinDecl.ofJson?) [],
         attributes := ← withDefault j "attributes" (list AttributeDecl.ofJson?) [],
         associations := ← withDefault j "associations" (list AssociationDecl.ofJson?) [] }

/-- Reads a catalog. -/
def CatalogDecl.ofJson? (j : Json) : Option CatalogDecl := do
  let j ← record? ["resources"] j
  pure ⟨← withDefault j "resources" (list ResourceDecl.ofJson?) []⟩

end ScimQuery
