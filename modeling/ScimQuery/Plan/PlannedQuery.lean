import ScimQuery.Catalog.Registry
import ScimQuery.Filter.Compile
import ScimQuery.Plan.Request

/-! # Planned queries

A request is answered by three kinds of statement over the resource's root table. The row
statement selects the root id and every single-valued attribute, joins what the filter,
the sort key and those attributes need, and keeps the rows of the tenant that pass the
static restrictions and the filter. It sorts by the key and then by the id, is grouped by
its projection when a join may yield many rows, and is cut to the page. The count
statement counts the distinct ids under the same joins and condition. An association
statement fetches, for the ids of a page, the members of one collection, sorted by id
and then by every column.

The condition is the left-nested conjunction of the tenant's equality, the restrictions
in declaration order and the compiled filter.
-/

namespace ScimQuery

/-- The condition that keeps the rows of one tenant. -/
def ResourceMapping.tenantExpr (m : ResourceMapping) (tenant : String) : Sql.Expr :=
  Sql.Expr.eq (m.root.column m.tenantColumn) (.param (.text tenant))

/-- One statement and the joins it was built from. -/
structure QueryPlan where
  root : TableReference
  joins : List JoinDescriptor
  query : Sql.Query
deriving Inhabited

/-- The statement of an association, waiting for the ids of a page. -/
structure AssociationPlan where
  name : String
  /-- the labels of the columns after the root id -/
  labels : List String
  template : Sql.Query
  id : Sql.Expr
deriving Inhabited

namespace AssociationPlan

/-- Plans the follow-up statement of an association. Only existing members matter, so
its joins are inner joins. -/
def ofAssociation (m : ResourceMapping) (a : Association) : Except QueryError AssociationPlan := do
  let id := m.idExpr
  let columns := a.columns.map fun c => c.table.column c.column
  let joins ← linearize m.root a.joins
  let template : Sql.Query :=
    { select := (id :: columns).map ((·, none))
      source := some m.root.toRef
      joins := joins.map fun j => JoinDescriptor.toJoin { j with outer := false }
      orderBy := (id :: columns).map ((·, some .asc)) }
  pure { name := a.name, labels := a.columns.map (·.label), template, id }

/-- The statement for the ids of a page. -/
def queryFor (p : AssociationPlan) (ids : List Sql.Value) : Sql.Query :=
  p.template.andWhere (.inList p.id (ids.map .param) false)

end AssociationPlan

/-- Everything needed to answer one request. -/
structure PlannedQuery where
  resource : String
  /-- the labels of the row statement's columns; the first is `id` -/
  labels : List String
  rows : QueryPlan
  count : QueryPlan
  associations : List AssociationPlan
  page : Page
deriving Inhabited

namespace ResourceMapping

/-- The attributes the row statement projects after the id: the single-valued ones other
than the id itself, in declaration order. -/
def projected (m : ResourceMapping) : List AttributeLocation :=
  m.attributes.filter fun a => !(a.multiValued || m.isId a)

/-- Plans a request of one tenant for the resource. -/
def plan (m : ResourceMapping) (settings : QuerySettings) (tenant : String)
    (filter : Option FilterNode) (sortBy : Option String) (sortOrder : Option SortOrder)
    (pageRequest : PageRequest) : Except QueryError PlannedQuery := do
  let page := pageRequest.resolve settings
  let guarded := m.restrictions.foldl Sql.Expr.and (m.tenantExpr tenant)
  let (filtered, predicate) ← match filter with
    | some f => do
      let c ← compileFilter m f
      pure (JoinSet.union {} c.joins, guarded.and c.predicate)
    | none => pure (({} : JoinSet), guarded)
  let sort ← match sortBy with
    | some path => some <$> SortKey.resolve m path (sortOrder.getD .ascending)
    | none => pure none
  let sorted := match sort with
    | some k => filtered.extend k.location.requiredJoins
    | none => filtered
  let joins := m.projected.foldl (fun js a => js.extend a.requiredJoins) sorted
  let projection := m.idExpr :: m.projected.map (·.columnExpr)
  let ordered ← linearize m.root joins.joins
  let base : Sql.Query :=
    { source := some m.root.toRef, joins := ordered.map (·.toJoin), filter := some predicate }
  let count := { base with select := [(Sql.Expr.countDistinct m.idExpr, none)] }
  let rows : Sql.Query :=
    { base with
      select := projection.map ((·, none))
      orderBy := (sort.map (·.orderBy)).toList ++ [(m.idExpr, some .asc)]
      groupBy := if joins.hasToMany then projection else [] }
  let associations ← m.associations.mapM (AssociationPlan.ofAssociation m)
  pure { resource := m.name, labels := "id" :: m.projected.map m.label,
         rows := ⟨m.root, ordered, (rows.withOffset page.offset).withLimit page.limit⟩,
         count := ⟨m.root, ordered, count⟩, associations, page }

end ResourceMapping

/-- Plans a request against the resource type it names. -/
def Registry.plan (reg : Registry) (settings : QuerySettings) (r : QueryRequest) :
    Except QueryError PlannedQuery := do
  let m ← reg.get r.resource
  m.plan settings r.tenant r.filter r.sortBy r.sortOrder r.pageRequest

end ScimQuery
