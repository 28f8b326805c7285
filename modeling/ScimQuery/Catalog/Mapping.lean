import ScimQuery.Catalog.Declaration
import ScimQuery.Catalog.Location
import ScimQuery.Join.Order
import ScimQuery.Attribute.Path
import ScimQuery.Sql.Build
import ScimQuery.Positions

/-! # Resource mappings

A resource mapping is a checked resource declaration: its aliases name declared tables,
its joins connect declared aliases, each attribute's schema is the resource's schema or
one of its extensions, and no attribute is declared twice up to ASCII case. Attributes
are looked up by schema, parent and name without regard to ASCII case, through an index from
their lower-cased keys to their positions that the mapping carries with the proof that it is
right; without a schema, the core schema is tried first and then the extensions in order. A path without parent
that names no attribute may name a complex attribute: the attributes whose parent it is.

The self-check asks more of a mapping: each attribute's join chain is already in an
order that `linearize` keeps and reaches the attribute's table; all chains together can
be ordered; and each association's joins can be ordered and reach its columns' tables.
-/

namespace ScimQuery

namespace ResourceMapping

/-- The key under which an attribute is found: its schema, parent and name in lower case. -/
def attrKey (schema : String) (parent : Option String) (name : String) :
    String × Option String × String :=
  (Text.lowerAscii schema, parent.map Text.lowerAscii, Text.lowerAscii name)

/-- The key of a location. -/
def keyOf (a : AttributeLocation) : String × Option String × String :=
  attrKey a.schemaUri a.parent a.name

end ResourceMapping

/-- Attributes in declaration order, with the position of each by its key. -/
structure AttributeIndex where
  attributes : List AttributeLocation
  index : List ((String × Option String × String) × Nat)
  positions : PositionsOf ResourceMapping.keyOf attributes index

namespace AttributeIndex

theorem positions_nil : PositionsOf ResourceMapping.keyOf [] [] := PositionsOf.nil

def empty : AttributeIndex := ⟨[], [], positions_nil⟩

theorem positions_push (acc : AttributeIndex) (loc : AttributeLocation)
    (h : acc.index.lookup (ResourceMapping.keyOf loc) = none) :
    PositionsOf ResourceMapping.keyOf (acc.attributes ++ [loc])
      ((ResourceMapping.keyOf loc, acc.attributes.length) :: acc.index) :=
  acc.positions.push h

/-- Adds an attribute of a new key at the end. -/
def push (acc : AttributeIndex) (loc : AttributeLocation)
    (h : acc.index.lookup (ResourceMapping.keyOf loc) = none) : AttributeIndex :=
  ⟨acc.attributes ++ [loc], (ResourceMapping.keyOf loc, acc.attributes.length) :: acc.index,
    positions_push acc loc h⟩

end AttributeIndex

/-- A checked resource declaration. -/
structure ResourceMapping where
  name : String
  endpoint : Option String
  schema : String
  extensions : List String
  root : TableReference
  idColumn : String
  tenantColumn : String
  restrictions : List Sql.Expr
  attributes : List AttributeLocation
  index : List ((String × Option String × String) × Nat)
  positions : PositionsOf ResourceMapping.keyOf attributes index
  associations : List Association

instance : Inhabited ResourceMapping :=
  ⟨{ name := "", endpoint := none, schema := "", extensions := [], root := default,
     idColumn := "", tenantColumn := "", restrictions := [], attributes := [], index := [],
     positions := AttributeIndex.positions_nil, associations := [] }⟩

/-- The result of looking up a path: an attribute, or a complex attribute given by its
sub-attributes in declaration order. -/
inductive Resolved where
  | attribute (a : AttributeLocation)
  | complex (name : String) (children : List AttributeLocation)

/-- The sub-attribute named `value`, in any ASCII case. -/
def valueChild (children : List AttributeLocation) : Option AttributeLocation :=
  children.find? fun c => Text.eqIgnoreAsciiCase c.name "value"

/-- Reads a path; a text that is no path is an unknown attribute named by the trimmed
text. -/
def AttributePath.parse (s : String) : Except QueryError AttributePath :=
  match AttributePath.parse? s with
  | some p => .ok p
  | none => .error (.unknownAttribute (Text.trim s))

namespace ResourceMapping

/-- The tables of a declaration, root first; an alias declared twice is refused. -/
def declaredTables (d : ResourceDecl) : Except QueryError (List TableReference) :=
  d.tables.foldlM (fun acc t =>
    if acc.any (·.aliasName = t.aliasName) then .error (.invalidDeclaration d.name (.aliasTwice t.aliasName))
    else .ok (acc ++ [⟨t.table, t.aliasName⟩])) [⟨d.root.table, d.root.aliasName⟩]

/-- The table under a declared alias. -/
def tableOf (d : ResourceDecl) (tables : List TableReference) (aliasName : String) :
    Except QueryError TableReference :=
  match tables.find? (·.aliasName = aliasName) with
  | some t => .ok t
  | none => .error (.invalidDeclaration d.name (.unknownAlias aliasName))

/-- The named joins of a declaration; a name declared twice is refused. -/
def declaredJoins (d : ResourceDecl) (tables : List TableReference) :
    Except QueryError (List (String × JoinDescriptor)) :=
  d.joins.foldlM (fun acc j => do
    let source ← tableOf d tables j.source
    let target ← tableOf d tables j.target
    let descriptor : JoinDescriptor :=
      { source, sourceColumn := j.sourceColumn, target, targetColumn := j.targetColumn,
        outer := j.outer, toMany := j.toMany }
    if acc.any (·.1 = j.name) then .error (.invalidDeclaration d.name (.joinTwice j.name))
    else .ok (acc ++ [(j.name, descriptor)])) []

/-- The joins named by a chain, in its order. -/
def chainOf (d : ResourceDecl) (joins : List (String × JoinDescriptor)) (names : List String) :
    Except QueryError (List JoinDescriptor) :=
  names.mapM fun n =>
    match joins.find? (·.1 = n) with
    | some (_, j) => .ok j
    | none => .error (.invalidDeclaration d.name (.unknownJoin n))

/-- The location of a declared attribute. -/
def locationOf (d : ResourceDecl) (tables : List TableReference)
    (joins : List (String × JoinDescriptor)) (a : AttributeDecl) :
    Except QueryError AttributeLocation := do
  let schemaUri := a.schema.getD d.schema
  if !(d.schema :: d.extensions).any (Text.eqIgnoreAsciiCase · schemaUri) then
    throw (.invalidDeclaration d.name (.undeclaredSchema a.name schemaUri))
  let requiredJoins ← chainOf d joins a.joins
  let table ← match a.table with
    | some aliasName => tableOf d tables aliasName
    | none => pure ((requiredJoins.getLast?.map (·.target)).getD ⟨d.root.table, d.root.aliasName⟩)
  pure { schemaUri, parent := a.parent, name := a.name, table, column := a.column,
         requiredJoins, kind := a.kind, caseExact := a.caseExact }

/-- The condition of a static restriction on the root table. -/
def restrictionOf (d : ResourceDecl) (r : RestrictionDecl) : Except QueryError Sql.Expr :=
  let column := Sql.Expr.col d.root.aliasName r.column
  match r.op, r.value with
  | .isNull, _ => .ok (.isNull column false)
  | .isNotNull, _ => .ok (.isNull column true)
  | .eq, some v => .ok (Sql.Expr.eq column (.param v))
  | .eq, none => .error (.invalidDeclaration d.name (.restrictionNeedsValue r.column))

/-- Checks a declaration and builds its mapping. -/
def ofDecl (d : ResourceDecl) : Except QueryError ResourceMapping := do
  let tables ← declaredTables d
  let joins ← declaredJoins d tables
  let attributes ← d.attributes.foldlM (fun (acc : AttributeIndex) a => do
    let loc ← locationOf d tables joins a
    if h : acc.index.lookup (keyOf loc) = none then pure (acc.push loc h)
    else throw (.invalidDeclaration d.name (.attributeTwice loc.qualifiedName))) .empty
  let restrictions ← d.restrictions.mapM (restrictionOf d)
  let associations ← d.associations.mapM fun a => do
    let columns ← a.columns.mapM fun c => do
      pure ({ label := c.label, table := ← tableOf d tables c.table, column := c.column } : AssociationColumn)
    pure { name := a.name, joins := ← chainOf d joins a.joins, columns }
  pure { name := d.name, endpoint := d.endpoint, schema := d.schema, extensions := d.extensions,
         root := ⟨d.root.table, d.root.aliasName⟩, idColumn := d.idColumn,
         tenantColumn := d.tenantColumn, restrictions, attributes := attributes.attributes,
         index := attributes.index, positions := attributes.positions, associations }

/-- The core schema, then the extensions. -/
def schemas (m : ResourceMapping) : List String := m.schema :: m.extensions

/-- Looks up an attribute by schema, parent and name in the index, ignoring ASCII case;
without a schema the schemas are tried in order. -/
def resolve (m : ResourceMapping) (schema parent : Option String) (name : String) :
    Except QueryError AttributeLocation :=
  let found := match schema with
    | some s => m.index.lookup (attrKey s parent name)
    | none => m.schemas.findSome? fun s => m.index.lookup (attrKey s parent name)
  match found with
  | some idx => .ok m.attributes[idx]!
  | none => .error (.unknownAttribute ({ schema, parent, name } : AttributePath).render)

/-- The attributes whose parent is `name` in the first schema that has any. -/
def childrenOf (m : ResourceMapping) (schemas : List String) (name : String) :
    Option (List AttributeLocation) :=
  schemas.findSome? fun s =>
    match m.attributes.filter (fun a => Text.eqIgnoreAsciiCase a.schemaUri s &&
        a.parent.any (Text.eqIgnoreAsciiCase · name)) with
    | [] => none
    | children => some children

/-- Looks up a path: an attribute, or failing that, for a path without parent, a complex
attribute. -/
def resolvePath (m : ResourceMapping) (p : AttributePath) : Except QueryError Resolved :=
  match m.resolve p.schema p.parent p.name with
  | .ok a => .ok (.attribute a)
  | .error e =>
    if p.parent.isSome then .error e
    else
      match m.childrenOf (match p.schema with | some s => [s] | none => m.schemas) p.name with
      | some children => .ok (.complex p.name children)
      | none => .error e

/-- The root's id column. -/
def idExpr (m : ResourceMapping) : Sql.Expr := m.root.column m.idColumn

/-- The label of an attribute in results: its full name in the core schema, its
qualified name otherwise. -/
def label (m : ResourceMapping) (a : AttributeLocation) : String :=
  if Text.eqIgnoreAsciiCase a.schemaUri m.schema then a.fullName else a.qualifiedName

/-- Whether an attribute is the root's id column. -/
def isId (m : ResourceMapping) (a : AttributeLocation) : Bool :=
  a.table = m.root && Text.eqIgnoreAsciiCase a.column m.idColumn

/-- A table is reachable when it is the root or a target of the joins. -/
def checkReachable (m : ResourceMapping) (table : TableReference) (joins : List JoinDescriptor)
    (what : String) : Except QueryError Unit :=
  if table = m.root || joins.any (·.target = table) then .ok ()
  else .error (.inconsistentJoins m.root.aliasName (.unreachable what table))

/-- Whether two chains are the same joins in the same order. -/
def sameChain : List JoinDescriptor → List JoinDescriptor → Bool
  | [], [] => true
  | a :: as, b :: bs => a.same b && sameChain as bs
  | _, _ => false

/-- The self-check of a mapping. -/
def selfCheck (m : ResourceMapping) : Except QueryError Unit := do
  let all ← m.attributes.foldlM (fun (all : JoinSet) a => do
    let ordered ← linearize m.root a.requiredJoins
    if !sameChain ordered a.requiredJoins then
      throw (.inconsistentJoins m.root.aliasName (.chainOutOfOrder a.qualifiedName))
    m.checkReachable a.table ordered a.qualifiedName
    pure (all.extend ordered)) {}
  let _ ← linearize m.root all.joins
  m.associations.forM fun assoc => do
    let ordered ← linearize m.root assoc.joins
    assoc.columns.forM fun c => m.checkReachable c.table ordered assoc.name

end ResourceMapping

end ScimQuery
