import ScimQuery.Config.Host
import ScimQuery.Config.Json
import ScimQuery.Toml.Document

/-! # Reading settings files

A settings file is a TOML document with the tables `query`, `database` and `catalog`,
each of which may be missing; unknown keys are ignored. The query table is read as query
settings are; the other two hold an optional `path`. Settings read from a file must be
valid.

Without a file named on the command line the settings are looked for, in order, at the
path in `SCIMQL_CONFIG`, at `scimql.toml` in the working directory, and at
`scimql/config.toml` in the user's configuration directory, `XDG_CONFIG_HOME` when that is
absolute and `.config` in the home directory otherwise; with none of them the defaults
hold. A path in `SCIMQL_CONFIG` must lead to a file.
-/

namespace ScimQuery

open Json

/-- Reads the optional `path` of a table. -/
def pathOf? (j : Json) : Option (Option String) := do
  let j ← record? ["path"] j
  optional j "path" str?

/-- Reads settings. -/
def Settings.ofJson? (j : Json) : Option Settings := do
  let j ← record? ["query", "database", "catalog"] j
  pure { query := ← withDefault j "query" QuerySettings.ofJson? {},
         databasePath := ← withDefault j "database" pathOf? none,
         catalogPath := ← withDefault j "catalog" pathOf? none }

/-- Writes settings as their three tables. -/
def Settings.toJson (s : Settings) : Json :=
  let path (p : Option String) : Json := .obj [("path", match p with | some t => .str t | none => .null)]
  .obj [("query", s.query.toJson), ("database", path s.databasePath), ("catalog", path s.catalogPath)]

/-- Reads settings from the text of a file. -/
def Settings.ofText (text : String) : Except SettingsError Settings := do
  match Toml.parse text >>= Settings.ofJson? with
  | some s =>
    s.query.validate
    pure s
  | none => throw .parseError

namespace Host

variable [Monad m] (h : Host m)

/-- Reads settings from a file, which must exist. -/
def settingsFrom (path : String) : m (Except SettingsError Settings) := do
  let found ← h.find path
  if !found.isPresent then return .error (.fileNotFound path)
  match found.readText with
  | .error reason => pure (.error (.readError reason))
  | .ok text => pure (Settings.ofText text)

/-- The user's configuration directory. -/
def configDir : m String := do
  match ← h.getEnv "XDG_CONFIG_HOME" with
  | some dir => if dir.startsWith "/" then pure dir else pure ".config"
  | none => pure ".config"

/-- Reads settings from where they are looked for, or takes the defaults. -/
def loadSettings : m (Except SettingsError Settings) := do
  if let some path ← h.getEnv "SCIMQL_CONFIG" then return ← h.settingsFrom path
  if (← h.find "scimql.toml").isPresent then return ← h.settingsFrom "scimql.toml"
  let user := (← h.configDir) ++ "/scimql/config.toml"
  if (← h.find user).isPresent then return ← h.settingsFrom user
  pure (.ok {})

/-- A path of the settings with its environment references expanded. -/
def resolvePath (path : Option String) : m (Except SettingsError (Option String)) := do
  match path with
  | none => pure (.ok none)
  | some p => pure ((← h.expand p).map some)

end Host

end ScimQuery
