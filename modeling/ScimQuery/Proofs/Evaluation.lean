import Mathlib
import ScimQuery.Result.Execute

/-! # Standard evaluation of planned statements

What a database answers to the statements of a plan, under standard SQL semantics. The
rows of the FROM table are joined with each joined table in turn: a row meets the rows of
the joined table on which the join condition is true, and a left join keeps a row that
meets none, with the joined table missing. WHERE keeps the joined rows its condition is
true of; how conditions other than the equality of two columns evaluate is left to the
database, as long as it answers for each joined row. GROUP BY puts together the rows
with equal grouping values; without it every row is a group of its own. ORDER BY sorts the
groups by their keys, item after item, in a total order of values, and OFFSET and LIMIT
cut the sorted groups. `COUNT(DISTINCT e)` counts the values of `e` that are not NULL,
each once.

Values are those of a linear order, the one ORDER BY sorts by, with NULL one of them;
`MIN` and `MAX` skip NULL. A result row carries each value as the database driver hands
it back.
-/

namespace ScimQuery.Standard

/-- A joined row: the row each alias stands at, none where a left join met no row. -/
abbrev Joined (R : Type) := String → Option R

/-- A database as standard evaluation sees it: the rows of each table and their values,
NULL, the value as a result row carries it, the scalar functions of one argument (such as
LOWER) and the WHERE conditions that are true of a joined row. -/
structure Database (V R : Type) where
  rows : String → List R
  cell : R → String → V
  null : V
  out : V → Sql.Value
  call : String → V → V
  holds : Sql.Expr → Joined R → Bool

/-- The name a table is known by in a statement: its alias, or its table name. -/
def tableName (t : Sql.TableRef) : String := t.aliasName.getD t.table

namespace Database

variable {V R : Type} [LinearOrder V] (db : Database V R)

/-- The value of a column under an alias; NULL where the alias stands at no row. -/
def column (τ : Joined R) (a c : String) : V :=
  match τ a with
  | some r => db.cell r c
  | none => db.null

/-- The value of a scalar expression of a statement: a column, or a function of one. -/
def value : Sql.Expr → Joined R → V
  | .column (some a) c, τ => db.column τ a c
  | .function name [x] false, τ => db.call name (value x τ)
  | _, _ => db.null

/-- Whether a join condition is true of a joined row: an equality of two columns when
they are equal and not NULL, any other condition as the database has it. -/
def onHolds (on : Sql.Expr) (τ : Joined R) : Bool :=
  match on with
  | .binary l .eq r => decide (db.value l τ ≠ db.null ∧ db.value l τ = db.value r τ)
  | e => db.holds e τ

/-- The rows of a joined table that a joined row meets. -/
def meets (t : Sql.TableRef) (on : Sql.Expr) (τ : Joined R) : List R :=
  (db.rows t.table).filter fun r => db.onHolds on (Function.update τ (tableName t) (some r))

/-- Joins a table to one joined row. -/
def joinStep (kind : Sql.JoinKind) (t : Sql.TableRef) (on : Sql.Expr) (τ : Joined R) :
    List (Joined R) :=
  match db.meets t on τ, kind with
  | [], .left => [Function.update τ (tableName t) none]
  | ms, _ => ms.map fun r => Function.update τ (tableName t) (some r)

/-- The rows of the FROM table, each a joined row of its own. -/
def start (source : Option Sql.TableRef) : List (Joined R) :=
  match source with
  | some t => (db.rows t.table).map fun r => Function.update (fun _ => none) (tableName t) (some r)
  | none => [fun _ => none]

/-- Joins the tables of a statement one after another. -/
def joinAll (joins : List (Sql.JoinKind × Sql.TableRef × Sql.Expr)) (ts : List (Joined R)) :
    List (Joined R) :=
  joins.foldl (fun ts j => ts.flatMap (db.joinStep j.1 j.2.1 j.2.2)) ts

/-- The joined rows a statement selects: its FROM, JOIN and WHERE. -/
def selected (q : Sql.Query) : List (Joined R) :=
  (db.joinAll q.joins (db.start q.source)).filter fun τ => q.filter.all (db.holds · τ)

/-- The groups of a statement's rows, in order of first appearance; without GROUP BY
each row is a group of its own. -/
def groups (q : Sql.Query) : List (List (Joined R)) :=
  if q.groupBy = [] then (db.selected q).map ([·])
  else
    let key (τ : Joined R) := q.groupBy.map (db.value · τ)
    ((db.selected q).map key).dedup.map fun k => (db.selected q).filter (key · = k)

/-- The value of an expression over a group: `MIN` and `MAX` of the values that are not
NULL, any other expression at the group's first row. -/
def groupValue (e : Sql.Expr) (g : List (Joined R)) : V :=
  match e with
  | .function "MIN" [x] false => ((g.map (db.value x)).filter (· ≠ db.null)).min?.getD db.null
  | .function "MAX" [x] false => ((g.map (db.value x)).filter (· ≠ db.null)).max?.getD db.null
  | e =>
    match g with
    | τ :: _ => db.value e τ
    | [] => db.null

/-- The ORDER BY key of a group: one value per item, in the order of values when
ascending and in the opposite order when descending, compared item after item. -/
def orderKey (items : List (Sql.Expr × Option Sql.SortDir)) (g : List (Joined R)) :
    List (V ⊕ₗ Vᵒᵈ) :=
  items.map fun item =>
    if item.2 = some .desc then toLex (.inr (OrderDual.toDual (db.groupValue item.1 g)))
    else toLex (.inl (db.groupValue item.1 g))

/-- The groups of a statement sorted by its ORDER BY. -/
def sorted (q : Sql.Query) : List (List (Joined R)) :=
  (db.groups q).mergeSort fun g h => decide (db.orderKey q.orderBy g ≤ db.orderKey q.orderBy h)

/-- The sorted groups that OFFSET and LIMIT keep. -/
def paged (q : Sql.Query) : List (List (Joined R)) :=
  let rest := (db.sorted q).drop ((q.paging.bind (·.offset)).getD 0)
  match q.paging.bind (·.limit) with
  | some l => rest.take l
  | none => rest

/-- The tuples a statement answers: for each group it keeps, its selected values. -/
def rowsOf (q : Sql.Query) : List (List Sql.Value) :=
  (db.paged q).map fun g => q.select.map fun item => db.out (db.groupValue item.1 g)

/-- `COUNT(DISTINCT e)` over the rows a statement selects. -/
def countDistinct (e : Sql.Expr) (q : Sql.Query) : Nat :=
  (((db.selected q).map (db.value e)).filter (· ≠ db.null)).dedup.length

/-- Answers a count statement: `COUNT(DISTINCT e)` when it selects that, the number of
selected rows otherwise. -/
def countOf (q : Sql.Query) : Nat :=
  match q.select with
  | [(.function "COUNT" [e] true, _)] => db.countDistinct e q
  | _ => (db.selected q).length

/-- The database answering every statement by standard evaluation. -/
def executor : Executor Id where
  count q := .ok (db.countOf q)
  rows q := .ok (db.rowsOf q)
  associationRows q := .ok (db.rowsOf q)

end Database

end ScimQuery.Standard
