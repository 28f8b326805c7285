import ScimQuery.Result.Row

/-! # Folding tuples into rows

Tuples of the row statement arrive one by one; the first value of each is the root id,
and the rest line up with the labels after `id`. Tuples whose ids have the same text are
folded into one row, which keeps the id first seen and, for each label, the first value
that is not NULL. Rows keep the order in which their ids first arrived, and the mapper keeps
the position of the row of each id text, by which it finds the row a tuple goes to.

A tuple of an association statement starts with a root id as well. It adds a member to
that row's collection when the row exists, the member has a value that is not NULL and
the collection does not hold an equal member yet.
-/

namespace ScimQuery

/-- Rows folded so far, in the order their ids first arrived, and the position of the row of
each id text. -/
structure ResultMapper where
  rows : List ResultRow := []
  byId : List (String × Nat) := []
deriving Inhabited

namespace ResultMapper

/-- The ids of the rows, in order. -/
def ids (m : ResultMapper) : List Sql.Value := m.rows.map (·.id)

/-- The number of rows. -/
def size (m : ResultMapper) : Nat := m.rows.length

/-- Whether no row was folded yet. -/
def isEmpty (m : ResultMapper) : Bool := m.rows.isEmpty

/-- The labelled non-null values of a tuple, skipping labels without a value and values
without a label. -/
def labelValues (labels : List String) (values : List Sql.Value) : List (String × Sql.Value) :=
  (labels.zip values).filter fun (_, v) => !v.isNull

end ResultMapper

/-- The member an association tuple adds: its labelled values that are not NULL, a label
given twice keeping its last value. -/
def Member.ofTuple (labels : List String) (values : List Sql.Value) : Member :=
  (ResultMapper.labelValues labels values).foldl (fun acc lv => Labelled.put lv.1 lv.2 acc) []

namespace ResultMapper

/-- The position of the row of an id's text, opening a row for the id at the end when there is
none. -/
def entry (m : ResultMapper) (id : Sql.Value) : ResultMapper × Nat :=
  match m.byId.lookup id.render with
  | some idx => (m, idx)
  | none =>
    let rows := m.rows ++ [{ id }]
    ({ rows, byId := (id.render, rows.length - 1) :: m.byId }, rows.length - 1)

/-- A row with the labelled values of a tuple added under the labels that have none. -/
def fillRow (labels : List String) (rest : List Sql.Value) (r : ResultRow) : ResultRow :=
  let attributes := (labelValues (labels.drop 1) rest).foldl
    (fun attrs lv => Labelled.insertNew lv.1 lv.2 attrs) r.attributes
  { r with attributes }

/-- Folds a tuple of the row statement into the row of its id; `labels` starts with the label
of the id. -/
def pushRow (m : ResultMapper) (labels : List String) (values : List Sql.Value) : ResultMapper :=
  match values with
  | [] => m
  | id :: rest =>
    let (m, idx) := m.entry id
    { m with rows := m.rows.set idx (fillRow labels rest m.rows[idx]!) }

/-- Adds a member to a collection unless it holds an equal one. -/
def addMember (member : Member) (members : List Member) : List Member :=
  if members.any (Member.beq member) then members else members ++ [member]

/-- A row with a member added to one of its collections. -/
def addToCollection (name : String) (member : Member) (r : ResultRow) : ResultRow :=
  { r with collections := r.collections.modify name [] (addMember member) }

/-- Folds a tuple of an association statement into the row of its id, when there is one;
`labels` are those of the columns after the id. -/
def pushAssociation (m : ResultMapper) (name : String) (labels : List String)
    (values : List Sql.Value) : ResultMapper :=
  match values with
  | [] => m
  | id :: rest =>
    match m.byId.lookup id.render with
    | none => m
    | some idx =>
      let member := Member.ofTuple labels rest
      if member.isEmpty then m
      else { m with rows := m.rows.set idx (addToCollection name member m.rows[idx]!) }

/-- The rows. -/
def finish (m : ResultMapper) : List ResultRow := m.rows

end ResultMapper

end ScimQuery
