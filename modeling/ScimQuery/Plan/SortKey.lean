import ScimQuery.Catalog.Mapping

/-! # Sort keys

A request may sort by an attribute, named as in filters; a complex attribute sorts by its
`value` sub-attribute. Text that folds case sorts by its lower-case form. An attribute
that may have many values for one resource sorts by its least value when ascending and
its greatest when descending, so that the rows of one resource can be grouped.
-/

namespace ScimQuery

/-- The direction of a sort. -/
inductive SortOrder where
  | ascending
  | descending
deriving Repr, DecidableEq, Inhabited

namespace SortOrder

/-- The name of a direction. -/
def name : SortOrder → String
  | .ascending => "ascending"
  | .descending => "descending"

/-- The direction of an ORDER BY item. -/
def dir : SortOrder → Sql.SortDir
  | .ascending => .asc
  | .descending => .desc

/-- Reads a direction from its name or its short form in any ASCII case; the error is the
text of the refusal. -/
def parse (s : String) : Except String SortOrder :=
  match Text.lowerAscii s with
  | "ascending" | "asc" => .ok .ascending
  | "descending" | "desc" => .ok .descending
  | other => .error ("invalid sort order '" ++ other ++ "'")

/-- Reads a direction from its serialized name. -/
def ofName? : String → Option SortOrder
  | "ascending" => some .ascending
  | "descending" => some .descending
  | _ => none

end SortOrder

/-- An attribute to sort by, with its direction. -/
structure SortKey where
  location : AttributeLocation
  order : SortOrder
deriving Inhabited

namespace SortKey

/-- Resolves the attribute to sort by. -/
def resolve (m : ResourceMapping) (sortBy : String) (order : SortOrder) :
    Except QueryError SortKey := do
  let path ← AttributePath.parse sortBy
  match ← m.resolvePath path with
  | .attribute a => pure ⟨a, order⟩
  | .complex _ children =>
    match valueChild children with
    | some a => pure ⟨a, order⟩
    | none => throw (.unknownAttribute sortBy)

/-- Whether rows must be grouped to sort by the key. -/
def needsAggregate (k : SortKey) : Bool := k.location.multiValued

/-- The expression sorted by. -/
def expr (k : SortKey) : Sql.Expr :=
  let column := k.location.columnExpr
  let key := if k.location.foldsCase then Sql.Expr.lower column else column
  if k.needsAggregate then
    match k.order with
    | .ascending => Sql.Expr.min key
    | .descending => Sql.Expr.max key
  else key

/-- The ORDER BY item of the key. -/
def orderBy (k : SortKey) : Sql.Expr × Option Sql.SortDir := (k.expr, some k.order.dir)

end SortKey

end ScimQuery
