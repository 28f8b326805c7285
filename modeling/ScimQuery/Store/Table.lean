import ScimQuery.Store.Cell
import ScimQuery.Text.Blank

/-! # Tables

A table has named columns, each with an affinity read off its declared type, and rows of
cells in the order of their row ids. A value stored in a column is first converted by the
column's affinity: a text column keeps numbers as their text, a numeric or integer column
reads texts that are numbers and keeps integral floats as integers, a real column keeps
every number as a float, and a column without a type keeps what it is given. Names of
tables and columns are compared without regard to ASCII case.

A row must leave no NOT NULL column empty and must differ from every other row in each
unique key, NULLs counting as distinct. A column declared `INTEGER PRIMARY KEY` holds the
row id itself: it takes the next free id when given NULL and refuses anything but an
integer. The next free id is one above the largest. Where no column has the name, the
row id is also read and written as `rowid`, `_rowid_` or `oid`.
-/

namespace ScimQuery.Store

/-- How a column converts the values stored in it. -/
inductive Affinity where
  | text
  | numeric
  | integer
  | real
  | blob
deriving DecidableEq, Repr, Inhabited

/-- Whether `part` occurs in `s`. -/
def containsText (s part : String) : Bool :=
  let cs := s.toList
  let ps := part.toList
  (List.range (cs.length + 1)).any fun i => (cs.drop i).take ps.length = ps

/-- The affinity of a declared type: `INT` makes an integer column; `CHAR`, `CLOB` or
`TEXT` a text column; `BLOB` or no type a column without conversion; `REAL`, `FLOA` or
`DOUB` a real column; anything else a numeric column. -/
def Affinity.ofDeclared (type : String) : Affinity :=
  let t := String.ofList (type.toList.map Char.toUpper)
  if containsText t "INT" then .integer
  else if containsText t "CHAR" || containsText t "CLOB" || containsText t "TEXT" then .text
  else if containsText t "BLOB" || t.isEmpty then .blob
  else if containsText t "REAL" || containsText t "FLOA" || containsText t "DOUB" then .real
  else .numeric

/-- Whether an affinity is one of the numeric ones. -/
def Affinity.isNumeric : Affinity → Bool
  | .numeric | .integer | .real => true
  | _ => false

namespace Cell

/-- A number read as a number, a text that is a number read as one (integral floats
becoming integers when `tryInt`), anything else unchanged. -/
def toNumeric (c : Cell) (tryInt : Bool) : Cell :=
  match c with
  | .text s => (numberOfText? s tryInt).getD c
  | .real x => if tryInt then ((exactInt? x).map Cell.int).getD c else c
  | _ => c

/-- A number as its text, anything else unchanged. -/
def toTextual : Cell → Cell
  | .int n => .text (toString n)
  | .real x => .text (realText x)
  | c => c

/-- A cell converted for storage in a column of an affinity. -/
def store (c : Cell) : Affinity → Cell
  | .text => c.toTextual
  | .numeric | .integer => c.toNumeric true
  | .real =>
    match c.toNumeric true with
    | .int n => .real (Decimal.ofInt n)
    | other => other
  | .blob => c

end Cell

/-- A column of a table. -/
structure Column where
  name : String
  affinity : Affinity
  notNull : Bool := false
  /-- declared `INTEGER PRIMARY KEY`: the column is the row id -/
  rowId : Bool := false
  defaultValue : Cell := .null
deriving Inhabited

/-- A stored row: its id and its cells, one per column. -/
structure Row where
  id : Int
  cells : List Cell
deriving Inhabited

/-- A table. -/
structure Table where
  name : String
  columns : List Column
  /-- the unique keys, each the positions of its columns, the latest declared first -/
  uniques : List (List Nat) := []
  /-- the rows in the order of their ids -/
  rows : List Row := []
deriving Inhabited

/-- All tables, in the order they were created. -/
structure Database where
  tables : List Table := []
deriving Inhabited

namespace Table

/-- The position of a column. -/
def columnIndex? (t : Table) (name : String) : Option Nat :=
  t.columns.findIdx? fun c => Text.eqIgnoreAsciiCase c.name name

/-- Whether a name is one the row id goes by where no column has it: `rowid`, `_rowid_`
or `oid`, in any ASCII case. -/
def isRowIdAlias (n : String) : Bool :=
  ["rowid", "_rowid_", "oid"].any (Text.eqIgnoreAsciiCase n ·)

/-- Whether a name can be read in a table's rows: a column, or a name of the row id. -/
def resolves (t : Table) (n : String) : Bool := (t.columnIndex? n).isSome || isRowIdAlias n

/-- Where a name that an INSERT or UPDATE writes goes: the position of its column, the
row id column for a name of the row id, or `none` for a row id without a column. A name
that is neither is refused. -/
def target? (t : Table) (n : String) (refusal : String) : Except String (Option Nat) :=
  match t.columnIndex? n with
  | some i => .ok (some i)
  | none => if isRowIdAlias n then .ok (t.columns.findIdx? (·.rowId)) else .error refusal

/-- The row id a value written to it gives: an integer, or a text or float that reads as
one; NULL leaves the choice to the table. -/
def givenId? (v : Cell) : Except String (Option Int) :=
  match v.store .integer with
  | .int n => .ok (some n)
  | .null => .ok none
  | _ => .error "datatype mismatch"

/-- The name of the column at a position. -/
def columnName (t : Table) (i : Nat) : String := ((t.columns[i]?).map (·.name)).getD ""

/-- The next free row id: one above the largest, or 1 in an empty table. -/
def nextId (t : Table) : Int := ((t.rows.map (·.id)).max?.map (· + 1)).getD 1

/-- Puts a row among the others in the order of the ids. -/
def insertRow (rows : List Row) (r : Row) : List Row :=
  let before := rows.filter (·.id < r.id)
  let after := rows.filter (·.id ≥ r.id)
  before ++ [r] ++ after

/-- Whether two rows agree on every column of a key, none of them NULL. -/
def keyClash (key : List Nat) (a b : List Cell) : Bool :=
  key.all fun i =>
    match a[i]?, b[i]? with
    | some x, some y => !x.isNull && x.same y
    | _, _ => false

/-- The text naming the columns of a key in a constraint failure. -/
def keyText (t : Table) (key : List Nat) : String :=
  ", ".intercalate (key.map fun i => t.name ++ "." ++ t.columnName i)

/-- The name the row id goes by in a constraint failure. -/
def rowIdName (t : Table) : String := ((t.columns.find? (·.rowId)).map (·.name)).getD "rowid"

/-- The first NOT NULL column a row leaves empty. -/
def emptyRequired? (t : Table) (cells : List Cell) : Option Column :=
  ((t.columns.zip cells).find? fun (c, v) => c.notNull && v.isNull).map (·.1)

/-- The first constraint a row breaks among the other rows, as SQLite words it: the NOT
NULL columns in their order, then the row id, then the unique keys in the order they are
kept. -/
def violation? (t : Table) (others : List Row) (r : Row) : Option String :=
  match t.emptyRequired? r.cells with
  | some c => some ("NOT NULL constraint failed: " ++ t.name ++ "." ++ c.name)
  | none =>
    if others.any (·.id = r.id) then some ("UNIQUE constraint failed: " ++ t.name ++ "." ++ t.rowIdName)
    else (t.uniques.find? fun key => others.any fun o => keyClash key r.cells o.cells).map
      fun key => "UNIQUE constraint failed: " ++ t.keyText key

/-- Whether a row clashes with another on the row id or on a unique key. -/
def clashes (t : Table) (r o : Row) : Bool :=
  o.id = r.id || t.uniques.any fun key => keyClash key r.cells o.cells

/-- The row id a row takes from its cells: its row id column, or `current`, or the next
free id. -/
def rowIdOf (t : Table) (cells : List Cell) (current : Option Int) :
    Except String (Int × List Cell) :=
  match t.columns.findIdx? (·.rowId) with
  | none => .ok ((current.getD t.nextId), cells)
  | some i =>
    match cells[i]? with
    | some (.int n) => .ok (n, cells)
    | some .null | none =>
      let n := current.getD t.nextId
      .ok (n, cells.set i (.int n))
    | some _ => .error "datatype mismatch"

/-- Cells given for every column, converted by the columns' affinities. -/
def convert (t : Table) (cells : List Cell) : List Cell :=
  (t.columns.zip cells).map fun (c, v) => v.store c.affinity

end Table

namespace Database

/-- The table of a name. -/
def table? (db : Database) (name : String) : Option Table :=
  db.tables.find? fun t => Text.eqIgnoreAsciiCase t.name name

/-- Replaces the table of a name. -/
def replace (db : Database) (t : Table) : Database :=
  { tables := db.tables.map fun u => if Text.eqIgnoreAsciiCase u.name t.name then t else u }

end Database

end ScimQuery.Store
