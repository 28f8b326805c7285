import ScimQuery.Store.Table
import ScimQuery.Sql.Syntax

/-! # Evaluating queries over stored tables

A query is evaluated the way SQLite evaluates the SQL text it stands for. The rows of the
FROM table are joined with each joined table in turn: an inner join keeps the pairs whose
ON condition holds, a left join keeps a row without partner with NULLs on the joined side.
WHERE keeps the rows whose condition is true, NULL counting as not true. Grouping puts
together the rows whose keys are equal; aggregates then run over each group, and a query
with aggregates but no GROUP BY forms one group of all its rows. The result is sorted by
the ORDER BY keys, stably, NULL first when ascending, and cut to the page.

A comparison converts its operands first. When both are columns and one of them is
numeric, texts that are numbers are read as numbers; when one is a column, its affinity
decides: a numeric column reads texts as numbers, and a text column turns numbers into
text if the other operand is a text. The values on the right of IN count as having no
affinity. Comparisons with NULL give NULL; AND, OR and NOT follow three-valued logic. LIKE
compares its operands as text, ignoring the case of ASCII letters, with `%` for any run of
characters, `_` for one, and the escape character taking the next one literally.

Before anything is evaluated, the query is checked as SQLite prepares it: first every
table, the FROM clause's before those of subqueries; then every column, in the order
select list, WHERE, ON conditions, ORDER BY, GROUP BY.
-/

namespace ScimQuery.Store

open Sql

/-- A table of a FROM clause under its name in the query, standing at one of its rows;
`none` is the missing side of a left join. -/
structure Binding where
  aliasName : String
  table : Table
  row : Option Row
deriving Inhabited

/-- The tables a query sees, innermost first. -/
abbrev Scope := List Binding

/-- The name a table reference is known by: its alias, or its table name. -/
def refName (t : TableRef) : String := t.aliasName.getD t.table

/-- The text naming a column in an error: `table.column` or `column`. -/
def columnText (table : Option String) (name : String) : String :=
  match table with
  | some t => t ++ "." ++ name
  | none => name

namespace Binding

/-- The cell and the affinity of a column of the binding. -/
def realColumn? (b : Binding) (name : String) : Option (Cell × Affinity) := do
  let i ← b.table.columnIndex? name
  let col ← b.table.columns[i]?
  let cell := match b.row with
    | some r => (r.cells[i]?).getD .null
    | none => .null
  pure (cell, col.affinity)

/-- The row id under one of its names, an integer. -/
def rowId? (b : Binding) (name : String) : Option (Cell × Affinity) :=
  if Table.isRowIdAlias name then
    some ((b.row.map fun r => Cell.int r.id).getD .null, .integer)
  else none

/-- A column of the binding, or else its row id. -/
def column? (b : Binding) (name : String) : Option (Cell × Affinity) :=
  (b.realColumn? name).orElse fun _ => b.rowId? name

end Binding

/-- Finds a column: under the named table, or in the first table that has it; a name of
the row id that no column has is the row id of the first table. -/
def Scope.lookup (scope : Scope) (table : Option String) (name : String) : Option (Cell × Affinity) :=
  match table with
  | some t => (scope.find? fun b => Text.eqIgnoreAsciiCase b.aliasName t).bind (·.column? name)
  | none => (scope.findSome? (·.realColumn? name)).orElse fun _ => scope.findSome? (·.rowId? name)

/-- Checks that a column can be found, and found once among the tables of one level. -/
def Scope.resolve (scope : Scope) (levels : List Nat) (table : Option String) (name : String) :
    Except String Unit :=
  match table with
  | some _ =>
    if (scope.lookup table name).isSome then .ok () else .error ("no such column: " ++ columnText table name)
  | none =>
    -- the bindings of each level, innermost level first
    let rec go (bs : Scope) : List Nat → Except String Unit
      | [] => .error ("no such column: " ++ name)
      | n :: rest =>
        let level := bs.take n
        let found := match level.filter (fun (b : Binding) => (b.realColumn? name).isSome) with
          | [] => level.filter (fun (b : Binding) => (b.rowId? name).isSome)
          | columns => columns
        match found with
        | [] => go (bs.drop n) rest
        | [_] => .ok ()
        | _ => .error ("ambiguous column name: " ++ name)
    go scope levels

/-- A truth value of a cell: NULL is unknown, a number is true when not zero, a text by
the number it starts with. -/
def Cell.truth : Cell → Option Bool
  | .null => none
  | .int n => some (n != 0)
  | .real x => some (x != 0.0)
  | .text s => some (leadingNumber s != 0.0)

/-- The cell of a truth value. -/
def ofTruth : Option Bool → Cell
  | some true => .int 1
  | some false => .int 0
  | none => .null

/-- The affinity under which two operands are compared; `none` compares them as they
are. -/
def comparisonAffinity : Option Affinity → Option Affinity → Option Affinity
  | some a, some b => if a.isNumeric || b.isNumeric then some .numeric else none
  | some a, none => some a
  | none, some b => some b
  | none, none => none

/-- Whether a cell is a text. -/
def Cell.isText : Cell → Bool
  | .text _ => true
  | _ => false

/-- Converts two operands for a comparison under an affinity. -/
def prepareOperands (aff : Option Affinity) (x y : Cell) : Cell × Cell :=
  match aff with
  | some a =>
    if a.isNumeric then (x.toNumeric false, y.toNumeric false)
    else if a = .text && (x.isText || y.isText) then (x.toTextual, y.toTextual)
    else (x, y)
  | none => (x, y)

/-- Compares two operands under an affinity; NULL gives no order. -/
def compareUnder (aff : Option Affinity) (x y : Cell) : Option Ordering :=
  if x.isNull || y.isNull then none
  else
    let (x, y) := prepareOperands aff x y
    some (x.compare y)

/-- Whether a comparison operator accepts an order. -/
def acceptsOrder : BinOp → Ordering → Bool
  | .eq, o => o == .eq
  | .ne, o => o != .eq
  | .lt, o => o == .lt
  | .gt, o => o == .gt
  | .lte, o => o != .gt
  | .gte, o => o != .lt
  | _, _ => false

/-- A piece of a LIKE pattern. -/
inductive PatternPiece where
  | anyRun
  | anyOne
  | literal (c : Char)
  /-- an escape character at the end: nothing matches -/
  | dangling
deriving DecidableEq

/-- The pieces of a LIKE pattern. -/
def patternPieces (esc : Char) : List Char → List PatternPiece
  | [] => []
  | c :: rest =>
    if c = esc then
      match rest with
      | [] => [.dangling]
      | d :: rest' => .literal d :: patternPieces esc rest'
    else if c = '%' then .anyRun :: patternPieces esc rest
    else if c = '_' then .anyOne :: patternPieces esc rest
    else .literal c :: patternPieces esc rest

/-- Equality of characters up to the case of ASCII letters. -/
def sameIgnoringAsciiCase (a b : Char) : Bool := Text.asciiLower a = Text.asciiLower b

/-- Whether a text matches pattern pieces. -/
def piecesMatch : List PatternPiece → List Char → Bool
  | [], s => s.isEmpty
  | .anyRun :: rest, s => (List.range (s.length + 1)).any fun i => piecesMatch rest (s.drop i)
  | .anyOne :: rest, s =>
    match s with
    | _ :: s' => piecesMatch rest s'
    | [] => false
  | .literal c :: rest, s =>
    match s with
    | d :: s' => sameIgnoringAsciiCase c d && piecesMatch rest s'
    | [] => false
  | .dangling :: _, _ => false

/-- Whether a text matches a LIKE pattern with an escape character. -/
def likeMatches (text pattern : String) (esc : Char) : Bool :=
  piecesMatch (patternPieces esc pattern.toList) text.toList

/-- The names of the aggregate functions. -/
def isAggregateName (name : String) (arity : Nat) : Bool :=
  name = "COUNT" || ((name = "MIN" || name = "MAX") && arity = 1)

/-- The name a function is called by, in upper case. -/
def functionKey (name : String) : String := String.ofList (name.toList.map Text.asciiUpper)

/-- Whether a function of this name takes this many arguments. -/
def functionKnown (name : String) (arity : Nat) : Option Bool :=
  match functionKey name with
  | "LOWER" | "UPPER" | "LENGTH" => some (arity = 1)
  | "COUNT" => some (arity ≤ 1)
  | "MIN" | "MAX" => some (arity ≥ 1)
  | _ => none

/-- Folds ASCII letters of a cell's text: NULL stays NULL, anything else becomes text. -/
def mapText (f : Char → Char) (c : Cell) : Cell :=
  match c.text? with
  | some s => .text (String.ofList (s.toList.map f))
  | none => .null

/-- The least or greatest of non-NULL cells; NULL when there are none. -/
def extreme (greatest : Bool) (cells : List Cell) : Cell :=
  (cells.filter (!·.isNull)).foldl (fun acc c =>
    if acc.isNull then c
    else
      match c.compare acc with
      | .lt => if greatest then acc else c
      | .gt => if greatest then c else acc
      | .eq => acc) .null

/-- Removes repeated cells, keeping first occurrences. -/
def distinctCells (cells : List Cell) : List Cell :=
  cells.foldl (fun acc c => if acc.any (·.same c) then acc else acc ++ [c]) []

/-- Compares two lists of sort keys, each with its direction. -/
def compareKeys : List (Cell × Option SortDir) → List (Cell × Option SortDir) → Ordering
  | (a, d) :: as, (b, _) :: bs =>
    let o := a.compare b
    let o := if d == some .desc then o.swap else o
    if o == .eq then compareKeys as bs else o
  | _, _ => .eq

/-- Compares two lists of cells in order. -/
def compareCells : List Cell → List Cell → Ordering
  | a :: as, b :: bs => match a.compare b with
    | .eq => compareCells as bs
    | o => o
  | [], [] => .eq
  | [], _ => .lt
  | _, [] => .gt

/-- The bindings of a FROM clause with no row. -/
def emptyScope (db : Database) (q : Query) : Scope :=
  let refs := q.source.toList ++ q.joins.map (·.2.1)
  refs.filterMap fun r => (db.table? r.table).map fun t => ⟨refName r, t, none⟩

/-- The number of bindings a query adds to its scope. -/
def bindingCount (q : Query) : Nat := q.source.toList.length + q.joins.length

mutual

/-- The affinity of an expression: a column's own, no affinity for anything else. -/
def exprAffinity (scope : Scope) : Expr → Option Affinity
  | .column t n => (scope.lookup t n).map (·.2)
  | .paren e => exprAffinity scope e
  | _ => none

end

mutual

/-- Whether an expression calls an aggregate function outside a subquery. -/
def hasAggregate : Expr → Bool
  | .function name args _ => isAggregateName (functionKey name) args.length || hasAggregateList args
  | .binary l _ r => hasAggregate l || hasAggregate r
  | .not e | .paren e | .isNull e _ => hasAggregate e
  | .inList e vs _ => hasAggregate e || hasAggregateList vs
  | .inQuery e _ _ => hasAggregate e
  | .like e p _ _ => hasAggregate e || hasAggregate p
  | _ => false

/-- Whether one of the expressions calls an aggregate function. -/
def hasAggregateList : List Expr → Bool
  | [] => false
  | e :: es => hasAggregate e || hasAggregateList es

end

/-- The outcome of `x IN ys`: true when an element equals `x`, otherwise NULL when `x` or
an element is NULL, otherwise false; negated for NOT IN. -/
def membership (x : Cell) (ys : List Cell) (aff : Option Affinity) (negated : Bool) : Cell :=
  let found := ys.any fun y => compareUnder aff x y == some .eq
  let outcome : Option Bool :=
    if found then some true
    else if x.isNull || ys.any (·.isNull) then none
    else some false
  ofTruth (outcome.map (· != negated))

/-- Stops evaluation that runs out of depth; the depth given always suffices. -/
def tooDeep : String := "query nested too deeply"

mutual

/-- Evaluates an expression at a row; `group` holds the rows of its group when the query
aggregates. -/
def evalExpr (db : Database) : Nat → Option (List Scope) → Scope → Expr → Except String Cell
  | 0, _, _, _ => .error tooDeep
  | fuel + 1, group, scope, e =>
    match e with
    | .column t n => pure ((scope.lookup t n).map (·.1) |>.getD .null)
    | .literal l =>
      pure (match l with
        | .int n => .int n
        | .float x => .real x
        | .string s => .text s
        | .bool b => .int (if b then 1 else 0)
        | .null => .null)
    | .param v => pure (Cell.ofValue v)
    | .binary l op r => do
      let x ← evalExpr db fuel group scope l
      let y ← evalExpr db fuel group scope r
      match op with
      | .and =>
        pure (ofTruth (match x.truth, y.truth with
          | some false, _ | _, some false => some false
          | some true, some true => some true
          | _, _ => none))
      | .or =>
        pure (ofTruth (match x.truth, y.truth with
          | some true, _ | _, some true => some true
          | some false, some false => some false
          | _, _ => none))
      | _ =>
        let aff := comparisonAffinity (exprAffinity scope l) (exprAffinity scope r)
        pure (ofTruth ((compareUnder aff x y).map (acceptsOrder op)))
    | .not inner => do
      let x ← evalExpr db fuel group scope inner
      pure (ofTruth (x.truth.map (!·)))
    | .function name args distinct => do
      let key := functionKey name
      match group, isAggregateName key args.length with
      | some rows, true => do
        match args with
        | [] | [.star _] => pure (.int rows.length)
        | arg :: _ =>
          let cells ← rows.mapM fun s => evalExpr db fuel none s arg
          let cells := if distinct then distinctCells cells else cells
          match key with
          | "COUNT" => pure (.int (cells.filter (!·.isNull)).length)
          | "MIN" => pure (extreme false cells)
          | _ => pure (extreme true cells)
      | _, _ => do
        let cells ← evalExprs db fuel group scope args
        match key, cells with
        | "LOWER", [c] => pure (mapText Text.asciiLower c)
        | "UPPER", [c] => pure (mapText Text.asciiUpper c)
        | "LENGTH", [c] => pure (match c.text? with
            | some s => .int s.length
            | none => .null)
        | "MIN", cs => pure (if cs.any (·.isNull) then .null else extreme false cs)
        | "MAX", cs => pure (if cs.any (·.isNull) then .null else extreme true cs)
        | _, _ => .error ("misuse of aggregate: " ++ name ++ "()")
    | .inList _ [] negated => pure (.int (if negated then 1 else 0))
    | .inList inner values negated => do
      let x ← evalExpr db fuel group scope inner
      let ys ← evalExprs db fuel group scope values
      let aff := comparisonAffinity (exprAffinity scope inner) none
      pure (membership x ys aff negated)
    | .inQuery inner q negated => do
      let rows ← evalQuery db fuel q
      let x ← evalExpr db fuel group scope inner
      let ys := rows.filterMap (·.head?)
      let inner_aff := match q.select.head? with
        | some (se, _) => exprAffinity (emptyScope db q) se
        | none => none
      let aff := comparisonAffinity (exprAffinity scope inner) inner_aff
      pure (if ys.isEmpty then .int (if negated then 1 else 0) else membership x ys aff negated)
    | .isNull inner negated => do
      let x ← evalExpr db fuel group scope inner
      pure (.int (if x.isNull != negated then 1 else 0))
    | .like inner pattern esc negated => do
      let x ← evalExpr db fuel group scope inner
      let p ← evalExpr db fuel group scope pattern
      match x.text?, p.text? with
      | some s, some pat => pure (.int (if likeMatches s pat esc != negated then 1 else 0))
      | _, _ => pure .null
    | .star _ => .error "near \"*\": syntax error"
    | .paren inner => evalExpr db fuel group scope inner

/-- Evaluates expressions at a row. -/
def evalExprs (db : Database) : Nat → Option (List Scope) → Scope → List Expr →
    Except String (List Cell)
  | 0, _, _, _ => .error tooDeep
  | _ + 1, _, _, [] => .ok []
  | fuel + 1, group, scope, e :: es => do
    pure ((← evalExpr db fuel group scope e) :: (← evalExprs db fuel group scope es))

/-- Evaluates a query to its rows of cells. -/
def evalQuery (db : Database) : Nat → Query → Except String (List (List Cell))
  | 0, _ => .error tooDeep
  | fuel + 1, q => do
    let scopes ← joinedRows db fuel q
    let kept ← scopes.filterM fun s => do
      match q.filter with
      | none => pure true
      | some w => pure ((← evalExpr db fuel none s w).truth == some true)
    let aggregates := q.select.any (fun se => hasAggregate se.1) || q.orderBy.any (fun o => hasAggregate o.1)
    let groups ← if !q.groupBy.isEmpty then groupRows db fuel q.groupBy kept
      else if aggregates then pure [kept]
      else pure (kept.map ([·]))
    let grouped := !q.groupBy.isEmpty || aggregates
    let outputs ← groups.mapM fun g => do
      let rep := g.getLast?.getD (emptyScope db q)
      let ctx := if grouped then some g else none
      let cells ← evalExprs db fuel ctx rep (q.select.map (·.1))
      let keys ← evalExprs db fuel ctx rep (q.orderBy.map (·.1))
      pure (cells, keys.zip (q.orderBy.map (·.2)))
    let sorted := outputs.mergeSort fun a b => compareKeys a.2 b.2 != .gt
    let paged := match q.paging with
      | some p =>
        let afterOffset := sorted.drop (p.offset.getD 0)
        match p.limit with
        | some l => afterOffset.take l
        | none => afterOffset
      | none => sorted
    pure (paged.map (·.1))

/-- The rows of a FROM clause and its joins. -/
def joinedRows (db : Database) : Nat → Query → Except String (List Scope)
  | 0, _ => .error tooDeep
  | fuel + 1, q => do
    let start : List Scope := match q.source with
      | some r =>
        match db.table? r.table with
        | some t => t.rows.map fun row => [⟨refName r, t, some row⟩]
        | none => []
      | none => [[]]
    q.joins.foldlM (fun (scopes : List Scope) (kind, ref, on) => do
      match db.table? ref.table with
      | none => pure scopes
      | some t =>
        let extended ← scopes.mapM fun s => do
          let partners ← t.rows.filterM fun row => do
            let s' := s ++ [⟨refName ref, t, some row⟩]
            pure ((← evalExpr db fuel none s' on).truth == some true)
          let found := partners.map fun row => s ++ [⟨refName ref, t, some row⟩]
          pure (if found.isEmpty && kind == .left then [s ++ [⟨refName ref, t, none⟩]] else found)
        pure extended.flatten) start

/-- Groups rows by the cells of the grouping expressions, groups in the order of their
keys. -/
def groupRows (db : Database) : Nat → List Expr → List Scope → Except String (List (List Scope))
  | 0, _, _ => .error tooDeep
  | fuel + 1, keys, rows => do
    let keyed ← rows.mapM fun s => do pure (← evalExprs db fuel none s keys, s)
    let groups := keyed.foldl (fun (acc : List (List Cell × List Scope)) (k, s) =>
      if acc.any (fun g => compareCells g.1 k == .eq) then
        acc.map fun g => if compareCells g.1 k == .eq then (g.1, g.2 ++ [s]) else g
      else acc ++ [(k, [s])]) []
    pure ((groups.mergeSort fun a b => compareCells a.1 b.1 != .gt).map (·.2))

end

end ScimQuery.Store
