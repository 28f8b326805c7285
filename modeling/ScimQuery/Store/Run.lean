import ScimQuery.Store.Prepare
import ScimQuery.Store.Statement

/-! # Running statements

A text of statements runs one statement at a time: each is read, its names resolved, and
then applied to the database; the first that fails stops the run with SQLite's message.

An INSERT or UPDATE writes one row at a time. A row is converted by the affinities of its
table's columns and then checked against the rows already there: its NOT NULL columns,
then its row id, then the unique keys, the latest declared first. `OR IGNORE` skips a row
that breaks a constraint; `OR REPLACE` fills an empty NOT NULL column from its default and
removes the rows it clashes with.
-/

namespace ScimQuery.Store

open Sql

/-- The scope of a table, at one of its rows or at none. -/
def tableScope (aliasName : String) (t : Table) (r : Option Row) : Scope := [⟨aliasName, t, r⟩]

/-- Resolves the names of an expression within a scope of one level. -/
def resolveIn (db : Database) (fuel : Nat) (scope : Scope) (es : List Expr) : Except String Unit :=
  checkNamesIn db fuel scope (if scope.isEmpty then [] else [scope.length]) es

/-- Whether an expression holds at a row. -/
def holdsAt (db : Database) (fuel : Nat) (scope : Scope) (e : Option Expr) : Except String Bool :=
  match e with
  | none => pure true
  | some w => do pure ((← evalExpr db fuel none scope w).truth == some true)

/-- The cell a column takes when a row leaves it out. -/
def Column.fallback (c : Column) : Cell := c.defaultValue

namespace Table

/-- Writes a row of converted cells with its id, as a conflict resolution says; `others`
are the rows it must not clash with. -/
def write (t : Table) (conflict : Conflict) (others : List Row) (r : Row) : Except String (Option (List Row)) :=
  match conflict with
  | .abort =>
    match t.violation? others r with
    | some msg => .error msg
    | none => .ok (some (insertRow others r))
  | .ignore =>
    if (t.violation? others r).isSome then .ok none else .ok (some (insertRow others r))
  | .replace =>
    let cells := (t.columns.zip r.cells).map fun (c, v) =>
      if c.notNull && v.isNull then c.fallback.store c.affinity else v
    let r : Row := { r with cells }
    match t.emptyRequired? cells with
    | some c => .error ("NOT NULL constraint failed: " ++ t.name ++ "." ++ c.name)
    | none => .ok (some (insertRow (others.filter (!t.clashes r ·)) r))

/-- Adds a row given a cell for every column and, for a table without a row id column,
the value given for its row id. -/
def add (t : Table) (conflict : Conflict) (cells : List Cell) (givenId : Cell) :
    Except String Table := do
  let (id, cells) ← t.rowIdOf (t.convert cells) (← givenId? givenId)
  match ← t.write conflict t.rows ⟨id, cells⟩ with
  | some rows => pure { t with rows }
  | none => pure t

end Table

/-- The position of every column a list names, or the refusal naming the first unknown one. -/
def positionsIn (t : Table) (names : List String) (refusal : String → String) : Except String (List Nat) :=
  names.mapM fun n =>
    match t.columnIndex? n with
    | some i => .ok i
    | none => .error (refusal n)

/-- Whether a list has no two equal items. -/
def allDistinct [BEq α] : List α → Bool
  | [] => true
  | x :: rest => !rest.contains x && allDistinct rest

/-- The first column whose name an earlier column already has. -/
def duplicateColumn? (defs : List ColumnDef) : Option ColumnDef :=
  let rec go (seen : List String) : List ColumnDef → Option ColumnDef
    | [] => none
    | c :: rest =>
      if seen.any (Text.eqIgnoreAsciiCase · c.name) then some c else go (seen ++ [c.name]) rest
  go [] defs

/-- Whether a declared type makes a primary key column the row id. -/
def isIntegerType (type : String) : Bool := Text.eqIgnoreAsciiCase type "INTEGER"

/-- Keeps the first of equal keys. -/
def dedupKeys (keys : List (List Nat)) : List (List Nat) :=
  keys.foldl (fun acc k => if acc.contains k then acc else acc ++ [k]) []

namespace Database

/-- Creates a table. -/
def createTable (db : Database) (fuel : Nat) (name : String) (ifNotExists : Bool)
    (defs : List ColumnDef) (keys : List KeyDecl) : Except String Database := do
  if (db.table? name).isSome then
    if ifNotExists then return db
    throw ("table " ++ name ++ " already exists")
  if let some c := duplicateColumn? defs then throw ("duplicate column name: " ++ c.name)
  let columnKeys := defs.filterMap fun c =>
    if c.primaryKey || c.unique then some (c.primaryKey, [c.name]) else none
  let allKeys := columnKeys ++ keys.map fun k => (k.primary, k.columns)
  let primaries := allKeys.filter (·.1)
  if primaries.length > 1 then throw ("table \"" ++ name ++ "\" has more than one primary key")
  -- the single INTEGER column of the primary key, not declared descending, is the row id
  let rowId : Option String := match primaries with
    | [(_, [c])] =>
      match defs.find? (Text.eqIgnoreAsciiCase ·.name c) with
      | some d => if isIntegerType d.type && !(d.primaryKey && d.descending) then some d.name else none
      | none => none
    | _ => none
  let defaults ← defs.mapM fun d =>
    match d.defaultValue with
    | some e => do
      resolveIn db fuel [] [e]
      evalExpr db fuel none [] e
    | none => pure Cell.null
  let columns : List Column := (defs.zip defaults).map fun (d, v) =>
    { name := d.name, affinity := .ofDeclared d.type, notNull := d.notNull,
      rowId := rowId.any (Text.eqIgnoreAsciiCase · d.name), defaultValue := v }
  let shell : Table := { name, columns }
  let keyed ← allKeys.mapM fun (primary, cols) => do
    let positions ← positionsIn shell cols ("no such column: " ++ ·)
    pure (primary, positions)
  let uniques := keyed.filterMap fun (primary, positions) =>
    match rowId with
    | some _ => if primary then none else some positions
    | none => some positions
  pure { tables := db.tables ++ [{ shell with uniques := (dedupKeys uniques).reverse }] }

/-- Creates an index: a unique one adds a key, which the rows already there must keep. -/
def createIndex (db : Database) (unique : Bool) (table : String) (cols : List String) :
    Except String Database := do
  let t ← match db.table? table with
    | some t => pure t
    | none => throw ("no such table: main." ++ table)
  let key ← positionsIn t cols ("no such column: " ++ ·)
  if !unique then return db
  let rec firstClash : List Row → Bool
    | [] => false
    | r :: rest => rest.any (fun o => Table.keyClash key r.cells o.cells) || firstClash rest
  if firstClash t.rows then throw ("UNIQUE constraint failed: " ++ t.keyText key)
  pure (db.replace { t with uniques := key :: t.uniques })

/-- The table a statement names. -/
def target (db : Database) (name : String) : Except String Table :=
  match db.table? name with
  | some t => .ok t
  | none => .error ("no such table: " ++ name)

/-- Inserts rows of values. -/
def insert (db : Database) (fuel : Nat) (conflict : Conflict) (name : String)
    (columns : Option (List String)) (rows : List (List Expr)) : Except String Database := do
  let t ← db.target name
  let positions ← match columns with
    | some cs => cs.mapM fun c => t.target? c ("table " ++ name ++ " has no column named " ++ c)
    | none => pure ((List.range t.columns.length).map some)
  for row in rows do resolveIn db fuel [] row
  let width := (rows.head?.map (·.length)).getD 0
  match columns with
  | none =>
    if width ≠ t.columns.length then
      throw ("table " ++ name ++ " has " ++ toString t.columns.length ++ " columns but " ++
        toString width ++ " values were supplied")
  | some cs =>
    if width ≠ cs.length then
      throw (toString width ++ " values for " ++ toString cs.length ++ " columns")
  let table ← rows.foldlM (fun (t : Table) row => do
    let values ← evalExprs db fuel none [] row
    let start := t.columns.map Column.fallback
    -- a column named twice takes its first value
    let cells := (positions.zip values).reverse.foldl
      (fun cs (i, v) => match i with | some i => cs.set i v | none => cs) start
    let givenId := (((positions.zip values).find? (·.1.isNone)).map (·.2)).getD .null
    t.add conflict cells givenId) t
  pure (db.replace table)

/-- Updates the rows where a condition holds. -/
def update (db : Database) (fuel : Nat) (conflict : Conflict) (name : String)
    (sets : List (String × Expr)) (filter : Option Expr) : Except String Database := do
  let t ← db.target name
  let scope := tableScope name t none
  let assignments ← sets.mapM fun (c, e) => do
    resolveIn db fuel scope [e]
    pure (← t.target? c ("no such column: " ++ c), e)
  resolveIn db fuel scope filter.toList
  let chosen ← t.rows.filterM fun r => holdsAt db fuel (tableScope name t (some r)) filter
  let rowIdColumn := t.columns.findIdx? (·.rowId)
  let rows ← chosen.foldlM (fun (rows : List Row) r => do
    let values ← evalExprs db fuel none (tableScope name t (some r)) (assignments.map (·.2))
    let written := (assignments.map (·.1)).zip values
    let cells := t.convert (written.foldl
      (fun cs (i, v) => match i with | some i => cs.set i v | none => cs) r.cells)
    let id ← match rowIdColumn with
      | some i =>
        match cells[i]? with
        | some (.int n) => pure n
        | _ => throw "datatype mismatch"
      | none =>
        -- of a row id set twice the last value counts
        match (written.filter (·.1.isNone)).getLast? with
        | some (_, v) =>
          match ← Table.givenId? v with
          | some n => pure n
          | none => throw "datatype mismatch"
        | none => pure r.id
    let others := rows.filter (·.id != r.id)
    match ← t.write conflict others ⟨id, cells⟩ with
    | some rows => pure rows
    | none => pure rows) t.rows
  pure (db.replace { t with rows })

/-- Deletes the rows where a condition holds. -/
def delete (db : Database) (fuel : Nat) (name : String) (filter : Option Expr) :
    Except String Database := do
  let t ← db.target name
  resolveIn db fuel (tableScope name t none) filter.toList
  let kept ← t.rows.filterM fun r => do pure !(← holdsAt db fuel (tableScope name t (some r)) filter)
  pure (db.replace { t with rows := kept })

/-- Drops a table. -/
def dropTable (db : Database) (name : String) (ifExists : Bool) : Except String Database :=
  match db.table? name with
  | some _ => .ok { tables := db.tables.filter fun t => !Text.eqIgnoreAsciiCase t.name name }
  | none => if ifExists then .ok db else .error ("no such table: " ++ name)

/-- Applies a statement; `fuel` bounds the nesting of its expressions. -/
def apply (db : Database) (fuel : Nat) : Statement → Except String Database
  | .createTable name ifNotExists columns keys => db.createTable fuel name ifNotExists columns keys
  | .createIndex _ _ unique table columns => db.createIndex unique table columns
  | .insert conflict table columns rows => db.insert fuel conflict table columns rows
  | .update conflict table sets filter => db.update fuel conflict table sets filter
  | .delete table filter => db.delete fuel table filter
  | .dropTable name ifExists => db.dropTable name ifExists
  | .noEffect => .ok db

/-- Runs the statements of a text in order, stopping at the first that fails. -/
def runText (db : Database) (text : String) : Except String Database :=
  (splitStatements (tokenize text)).foldlM (fun db tokens => do
    let s ← readStatement (fun table n => (db.table? table).any (·.resolves n)) tokens
    db.apply (4 * tokens.length + 8) s) db

end Database

end ScimQuery.Store
