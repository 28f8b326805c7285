import ScimQuery.Store.Prepare
import ScimQuery.Result.Execute

/-! # Answering plans from a database

The database answers the statements of a plan by running them. A count is the integer in
the first column of the first row, and never below zero; rows come back as values, NULL
as the null value, integers, reals and texts as themselves.
-/

namespace ScimQuery.Store

/-- The count a statement's rows answer: the integer of the first row's first column. -/
def countOf (rows : List (List Cell)) : Except String Nat :=
  match rows with
  | [] => .error "Query returned no rows"
  | row :: _ =>
    match row.head? with
    | some (.int n) => .ok n.toNat
    | some (.real _) => .error "Invalid column type Real at index: 0"
    | some (.text _) => .error "Invalid column type Text at index: 0"
    | _ => .error "Invalid column type Null at index: 0"

/-- The values of rows of cells. -/
def valuesOf (rows : List (List Cell)) : List (List Sql.Value) := rows.map (·.map Cell.toValue)

/-- The database as an executor of plans. -/
def Database.executor (db : Database) : Executor Id where
  count q := (runQuery db q).bind countOf
  rows q := (runQuery db q).map valuesOf
  associationRows q := (runQuery db q).map valuesOf

/-- Plans a request and runs it on the database. -/
def Database.query (db : Database) (reg : Registry) (settings : QuerySettings)
    (r : QueryRequest) : Except QueryError QueryResult :=
  (reg.query settings db.executor r).run

end ScimQuery.Store
