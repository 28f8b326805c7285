import ScimQuery.Config.Environment
import ScimQuery.Store.Table

/-! # The host a program runs on

The command line sees its machine through two questions: what a path leads to, and what
an environment variable holds. A path leads to a file, to a directory, to nothing, or
through a file as if it were a directory. A file holds text or a database.

Reading a file as text and asking whether a path exists are answered from what the path
leads to, with the words of the operating system for each failure. A database that has
tables is no text; one without any is an empty file.
-/

namespace ScimQuery

/-- What a file holds. -/
inductive Contents where
  | text (s : String)
  | database (db : Store.Database)
  /-- bytes that are no UTF-8 text -/
  | binary

/-- What a path leads to. -/
inductive Found where
  | file (c : Contents)
  | directory
  | missing
  /-- a path that goes through a file -/
  | notDirectory

namespace Found

/-- Whether the path exists. -/
def isPresent : Found → Bool
  | .file _ | .directory => true
  | _ => false

/-- The text of the file, or the failure of reading it. -/
def readText : Found → Except String String
  | .file (.text s) => .ok s
  | .file (.database db) =>
    if db.tables.isEmpty then .ok "" else .error "stream did not contain valid UTF-8"
  | .file .binary => .error "stream did not contain valid UTF-8"
  | .directory => .error "Is a directory (os error 21)"
  | .missing => .error "No such file or directory (os error 2)"
  | .notDirectory => .error "Not a directory (os error 20)"

end Found

/-- The host as the command line asks it, in a monad of effects. -/
structure Host (m : Type → Type) where
  find : String → m Found
  getEnv : String → m (Option String)

namespace Host

/-- The environment a text's references see. -/
def environmentFor [Monad m] (h : Host m) (text : String) : m Environment := do
  let names := Environment.references text
  let bound ← names.filterMapM fun n => do pure ((← h.getEnv n).map (n, ·))
  pure (Environment.ofList bound)

/-- Expands the references of a text from the host's environment. -/
def expand [Monad m] (h : Host m) (text : String) : m (Except SettingsError String) := do
  pure ((← h.environmentFor text).expand text)

end Host

end ScimQuery
