import ScimQuery.Config.Host
import ScimQuery.Store.Executor

/-! # Opening a database file

A database file is opened by its path. A file that holds a database opens to it, and an
empty file or a path that does not exist yet, in a directory that does, to an empty
database; any other file opens, but every statement on it fails, since it is not a
database. A directory, or a path through a missing directory or a file, cannot be opened.
-/

namespace ScimQuery.Cli

/-- An open database, or a file that holds none. -/
inductive Connection where
  | ready (db : Store.Database)
  | unreadable (message : String)

/-- The directory part of a path: all before its last slash. -/
def parentOf (path : String) : String :=
  match (path.splitOn "/").dropLast with
  | [] => "."
  | [""] => "/"
  | parts => "/".intercalate parts

/-- The message of a database that cannot be opened. -/
def cannotOpen : String := "unable to open database file"

/-- Opens the database file at a path. -/
def openDatabase [Monad m] (h : Host m) (path : String) : m (Except String Connection) := do
  if path.isEmpty then return .ok (.ready {})
  match ← h.find path with
  | .file (.database db) => pure (.ok (.ready db))
  | .file (.text "") => pure (.ok (.ready {}))
  | .file _ => pure (.ok (.unreadable "file is not a database"))
  | .directory | .notDirectory => pure (.error cannotOpen)
  | .missing =>
    match ← h.find (parentOf path) with
    | .directory => pure (.ok (.ready {}))
    | _ => pure (.error cannotOpen)

/-- A database on which every statement fails with one message. -/
def refusing (message : String) : Executor Id :=
  ⟨fun _ => .error message, fun _ => .error message, fun _ => .error message⟩

/-- Plans a request and runs it on the connection. -/
def Connection.query (c : Connection) (reg : Registry) (settings : QuerySettings)
    (r : QueryRequest) : Except QueryError QueryResult :=
  match c with
  | .ready db => db.query reg settings r
  | .unreadable message => Id.run (reg.query settings (refusing message) r).run

end ScimQuery.Cli
