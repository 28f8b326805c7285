import ScimQuery.Catalog.Mapping
import ScimQuery.Filter.Node
import ScimQuery.Filter.Coerce
import ScimQuery.Filter.Like
import ScimQuery.Sql.Render

/-! # Compiling filters to SQL predicates

A filter becomes a predicate over the root table and the joins it needs. `and` and `or`
are parenthesized. A comparison names an attribute, or a complex attribute: presence of a
complex attribute is presence of any of its sub-attributes, and every other operator
compares its `value` sub-attribute. Textual attributes that fold case compare both sides
in lower case; the patterns `co`, `sw` and `ew` bind an escaped text with `%` around it,
at its end or at its start.

A negated filter whose joins may yield many rows per resource is not negated row by row:
it becomes `id NOT IN (SELECT id … WHERE filter)`, a subquery with its own joins, which
the statement around it does not need.
-/

namespace ScimQuery

/-- A compiled filter: the predicate and the joins it needs. -/
structure CompiledFilter where
  predicate : Sql.Expr
  joins : JoinSet

/-- The values of the predicate's parameters, in placeholder order. -/
def CompiledFilter.params (c : CompiledFilter) : List Sql.Value := c.predicate.params

namespace Compile

/-- Presence of a value: not NULL, and for text also not empty. -/
def presence (a : AttributeLocation) : Sql.Expr :=
  let column := a.columnExpr
  if a.kind.isTextual then
    .paren (Sql.Expr.and (.isNull column true) (.binary column .ne (.literal (.string ""))))
  else .isNull column true

/-- The comparison operator of a SCIM operator that is no pattern. -/
def binOp : CompareOp → Sql.BinOp
  | .ne => .ne
  | .gt => .gt
  | .ge => .gte
  | .lt => .lt
  | .le => .lte
  | _ => .eq

/-- The predicate comparing an attribute with a literal. -/
def compare (a : AttributeLocation) (path : String) (op : CompareOp) (value : FilterValue) :
    Except QueryError Sql.Expr := do
  let column := a.columnExpr
  if op = .pr then return presence a
  match value with
  | .null =>
    match op with
    | .eq => return .isNull column false
    | .ne => return .isNull column true
    | _ => throw (.invalidFilterValue path value .nullNeedsEquality)
  | _ => pure ()
  checkOperator a path op value
  let bound ← coerce a path value
  let rhs : Sql.Expr := match op, bound with
    | .co, .text s => .param (.text ("%" ++ Like.escape s ++ "%"))
    | .sw, .text s => .param (.text (Like.escape s ++ "%"))
    | .ew, .text s => .param (.text ("%" ++ Like.escape s))
    | _, _ => .param bound
  let (column, rhs) := if a.foldsCase then (Sql.Expr.lower column, Sql.Expr.lower rhs) else (column, rhs)
  if op.isPattern then return .like column rhs Like.escapeChar false
  return .binary column (binOp op) rhs

/-- The predicate of a comparison, with the joins it adds. -/
def comparison (m : ResourceMapping) (joins : JoinSet) (path : String) (op : CompareOp)
    (value : FilterValue) : Except QueryError (Sql.Expr × JoinSet) := do
  let parsed ← match AttributePath.parse? path with
    | some p => pure p
    | none => throw (.unknownAttribute (Text.trim path))
  match ← m.resolvePath parsed with
  | .attribute a =>
    let joins := joins.extend a.requiredJoins
    pure (← compare a path op value, joins)
  | .complex _ children =>
    if op = .pr then
      match children with
      | [] => throw (.unknownAttribute path)
      | first :: rest =>
        let joins := (first :: rest).foldl (fun js c => js.extend c.requiredJoins) joins
        let any := rest.foldl (fun acc c => Sql.Expr.or acc (presence c)) (presence first)
        pure (.paren any, joins)
    else
      match valueChild children with
      | some a =>
        let joins := joins.extend a.requiredJoins
        pure (← compare a path op value, joins)
      | none => throw (.unknownAttribute path)

/-- The predicate of a filter, with the joins it adds to `joins`. -/
def node (m : ResourceMapping) : FilterNode → JoinSet → Except QueryError (Sql.Expr × JoinSet)
  | .comparison path op value, joins => comparison m joins path op value
  | .and l r, joins => do
    let (l, joins) ← node m l joins
    let (r, joins) ← node m r joins
    pure (.paren (Sql.Expr.and l r), joins)
  | .or l r, joins => do
    let (l, joins) ← node m l joins
    let (r, joins) ← node m r joins
    pure (.paren (Sql.Expr.or l r), joins)
  | .not c, joins => do
    let (p, inner) ← node m c {}
    if !inner.hasToMany then
      pure (Sql.Expr.negate p, joins.union inner)
    else
      let ordered ← linearize m.root inner.joins
      let matching : Sql.Query :=
        { select := [(m.idExpr, none)], source := some m.root.toRef,
          joins := ordered.map JoinDescriptor.toJoin }
      pure (.inQuery m.idExpr (matching.andWhere p) true, joins)

end Compile

/-- Compiles a filter for a resource. -/
def compileFilter (m : ResourceMapping) (f : FilterNode) : Except QueryError CompiledFilter := do
  let (predicate, joins) ← Compile.node m f {}
  pure ⟨predicate, joins⟩

end ScimQuery
