import ScimQuery.Plan.PlannedQuery
import ScimQuery.Result.Mapper

/-! # Running a plan

A plan runs against a database in a fixed order. The count runs first. When it finds no
entity, or the page is empty or starts beyond the last entity, nothing else runs.
Otherwise the row statement runs and its tuples are folded into rows; then, when the page
has ids, each association runs once, in declaration order, for the ids of the page, and
its tuples are folded into the rows' collections. The first failure of the database ends
the run.
-/

namespace ScimQuery

/-- A database as statements reach it: for each kind of statement an answer or the
database's message. A database that reads SQL text binds the statement in its own
dialect. -/
structure Executor (m : Type → Type) where
  count : Sql.Query → m (Except String Nat)
  rows : Sql.Query → m (Except String (List (List Sql.Value)))
  associationRows : Sql.Query → m (Except String (List (List Sql.Value)))

/-- The rows of one page and the number of matching root entities. -/
structure Execution where
  rows : List ResultRow
  total : Nat
deriving Inhabited

/-- A database answer, its failure turned into a database error. -/
def Executor.call [Monad m] (answer : m (Except String α)) : ExceptT QueryError m α :=
  ExceptT.mk ((·.mapError QueryError.database) <$> answer)

/-- Runs a plan. -/
def execute [Monad m] (ex : Executor m) (plan : PlannedQuery) : ExceptT QueryError m Execution := do
  let total ← Executor.call (ex.count plan.count.query)
  if total = 0 || plan.page.limit = 0 || plan.page.offset ≥ total then
    return ⟨[], total⟩
  let tuples ← Executor.call (ex.rows plan.rows.query)
  let mapper := tuples.foldl (fun mp t => mp.pushRow plan.labels t) ({} : ResultMapper)
  let ids := mapper.ids
  if ids.isEmpty then return ⟨mapper.finish, total⟩
  let mapper ← plan.associations.foldlM (fun mp a => do
    let tuples ← Executor.call (ex.associationRows (a.queryFor ids))
    pure (tuples.foldl (fun mp t => mp.pushAssociation a.name a.labels t) mp)) mapper
  return ⟨mapper.finish, total⟩

/-- A page of root entities with the figures of a list response. -/
structure QueryResult where
  totalResults : Nat
  startIndex : Nat
  itemsPerPage : Nat
  rows : List ResultRow
deriving Inhabited

/-- Plans a request and runs it. -/
def Registry.query [Monad m] (reg : Registry) (settings : QuerySettings) (ex : Executor m)
    (r : QueryRequest) : ExceptT QueryError m QueryResult := do
  let plan ← ExceptT.mk (pure (reg.plan settings r))
  let run ← execute ex plan
  pure ⟨run.total, plan.page.startIndex, run.rows.length, run.rows⟩

end ScimQuery
