import ScimQuery.Config.Host

/-! # A directory of files

The files of a working directory, each kept under the parts of its path. A path is read
from the directory: empty parts and `.` are dropped and `..` goes up a part. It leads to
a file when one is kept under its parts, to a directory when it is a proper beginning of
a kept path, and through a file when a proper beginning of it is a file. Absolute paths
and paths that leave the directory lead to nothing, the root alone being a directory.
-/

namespace ScimQuery

/-- The files of a working directory. -/
structure Files where
  entries : List (List String × Contents) := []

/-- The parts of a path inside the working directory, or `none` for an absolute path
or one that leaves it. -/
def pathParts (path : String) : Option (List String) :=
  if path.startsWith "/" then none
  else (path.splitOn "/").foldlM (fun acc part =>
    if part = "" || part = "." then some acc
    else if part = ".." then (if acc.isEmpty then none else some acc.dropLast)
    else some (acc ++ [part])) []

namespace Files

/-- The contents kept under the parts of a path. -/
def fileAt? (fs : Files) (parts : List String) : Option Contents :=
  (fs.entries.find? (·.1 = parts)).map (·.2)

/-- What a path leads to. -/
def find (fs : Files) (path : String) : Found :=
  if path.isEmpty then .missing
  else
    match pathParts path with
    | none => if path.toList.all (fun c => c = '/' || c = '.') then .directory else .missing
    | some parts =>
      if (List.range parts.length).any (fun n => 0 < n && (fs.fileAt? (parts.take n)).isSome) then
        .notDirectory
      else
        match fs.fileAt? parts with
        | some c => if path.endsWith "/" then .notDirectory else .file c
        | none =>
          if parts.isEmpty || fs.entries.any (fun e => parts.length < e.1.length && e.1.take parts.length = parts)
          then .directory else .missing

/-- Keeps a file under a path that stays in the directory without going up: not
absolute and with no `..` part. -/
def write (fs : Files) (path : String) (c : Contents) : Option Files := do
  if (path.splitOn "/").contains ".." then none
  let parts ← pathParts path
  if parts.isEmpty then none
  pure ⟨(fs.entries.filter (·.1 ≠ parts)) ++ [(parts, c)]⟩

/-- The host whose files these are, with an environment. -/
def host (fs : Files) (env : Environment) : Host Id := ⟨fs.find, env.get?⟩

end Files

end ScimQuery
