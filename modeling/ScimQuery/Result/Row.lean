import ScimQuery.Sql.Value

/-! # Result rows

A result row is one root entity: its id, its single-valued attributes by label and its
collections by name, each collection a list of members that map labels to values. Labels
and names are kept in ascending order, each at most once, so that a row reads the same
whichever order its values arrived in.
-/

namespace ScimQuery

/-- Values under labels in ascending order, each label at most once. -/
abbrev Labelled (α : Type) := List (String × α)

namespace Labelled

/-- The value under a label. -/
def get? (m : Labelled α) (label : String) : Option α := (m.find? (·.1 = label)).map (·.2)

/-- Adds a value under a label that has none yet; a label with a value keeps it. -/
def insertNew (label : String) (v : α) : Labelled α → Labelled α
  | [] => [(label, v)]
  | (k, w) :: rest =>
    if label = k then (k, w) :: rest
    else if label < k then (label, v) :: (k, w) :: rest
    else (k, w) :: insertNew label v rest

/-- Puts a value under a label, replacing the value it had. -/
def put (label : String) (v : α) : Labelled α → Labelled α
  | [] => [(label, v)]
  | (k, w) :: rest =>
    if label = k then (k, v) :: rest
    else if label < k then (label, v) :: (k, w) :: rest
    else (k, w) :: put label v rest

/-- Changes the value under a label, starting from `d` when it has none. -/
def modify (label : String) (d : α) (f : α → α) : Labelled α → Labelled α
  | [] => [(label, f d)]
  | (k, w) :: rest =>
    if label = k then (k, f w) :: rest
    else if label < k then (label, f d) :: (k, w) :: rest
    else (k, w) :: modify label d f rest

end Labelled

/-- A member of a collection: labelled non-null values. -/
abbrev Member := Labelled Sql.Value

/-- Equality of members: the same labels with equal values. -/
def Member.beq (a b : Member) : Bool :=
  a.length == b.length && (a.zip b).all fun (x, y) => x.1 == y.1 && x.2 == y.2

/-- One root entity with its single-valued attributes and loaded collections. -/
structure ResultRow where
  id : Sql.Value
  attributes : Labelled Sql.Value := []
  collections : Labelled (List Member) := []
deriving Inhabited

namespace ResultRow

/-- The value of an attribute. -/
def get? (r : ResultRow) (label : String) : Option Sql.Value := r.attributes.get? label

/-- The members of a collection; none when it was never loaded. -/
def collection (r : ResultRow) (name : String) : List Member := (r.collections.get? name).getD []

end ResultRow

end ScimQuery
