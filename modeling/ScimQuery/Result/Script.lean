import ScimQuery.Result.Execute
import ScimQuery.Sql.Render

/-! # Scripted databases

A scripted database answers every count with one answer and every row statement with
one list of tuples, and association statements with the answers of a list, one per
statement in order and an empty list once the list is used up. It records each statement
it was asked, with its kind, so that the order of a run can be read back.
-/

namespace ScimQuery

/-- The kinds of statement a run asks. -/
inductive StatementKind where
  | count
  | rows
  | association
deriving Repr, DecidableEq, Inhabited

/-- The name of a kind of statement. -/
def StatementKind.name : StatementKind → String
  | .count => "count"
  | .rows => "rows"
  | .association => "association"

/-- The answers of a scripted database. -/
structure Script where
  count : Except String Nat := .ok 0
  rows : Except String (List (List Sql.Value)) := .ok []
  associations : List (Except String (List (List Sql.Value))) := []

/-- What a scripted database has been asked, and the association answers left. -/
structure ScriptLog where
  asked : List (StatementKind × Sql.Bound) := []
  associationsLeft : List (Except String (List (List Sql.Value))) := []

namespace Script

/-- Records a statement. -/
def record (kind : StatementKind) (b : Sql.Bound) : StateM ScriptLog Unit :=
  modify fun log => { log with asked := log.asked ++ [(kind, b)] }

/-- The next association answer. -/
def nextAssociation : StateM ScriptLog (Except String (List (List Sql.Value))) := do
  let log ← get
  match log.associationsLeft with
  | [] => pure (.ok [])
  | a :: rest => do
    set { log with associationsLeft := rest }
    pure a

/-- The database that answers from a script in a dialect. -/
def executor (s : Script) (d : Sql.Dialect) : Executor (StateM ScriptLog) where
  count q := do record .count (q.bind d); pure s.count
  rows q := do record .rows (q.bind d); pure s.rows
  associationRows q := do record .association (q.bind d); nextAssociation

/-- Runs a plan against a script: the outcome and the statements asked. -/
def run (s : Script) (d : Sql.Dialect) (plan : PlannedQuery) :
    Except QueryError Execution × List (StatementKind × Sql.Bound) :=
  let (outcome, log) := ((execute (s.executor d) plan).run.run { associationsLeft := s.associations })
  (outcome, log.asked)

end Script

end ScimQuery
