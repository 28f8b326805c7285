import ScimQuery.Cli.Help
import ScimQuery.Cli.Connection
import ScimQuery.Config.Load
import ScimQuery.Catalog.File
import ScimQuery.Catalog.Builtin
import ScimQuery.Filter.Json
import ScimQuery.Json.Parse
import ScimQuery.Json.Print
import ScimQuery.Plan.PlannedQuery
import ScimQuery.Sql.Render

/-! # Running the command line

A run reads its settings (from the file `--config` names, or from where settings are
looked for), then its catalog (from `--catalog`, from the catalog path of the settings
with its environment references expanded, or the built-in one), and then runs its
command:
- `check` lists the resource types with their schemas, root tables and the numbers of
  their attributes and associations, each extension on a line of its own;
- `plan` prints the statements planned for a request, in the dialect of `--dialect` or
  of the settings, with the debug texts of their parameters; the statements of the
  associations are bound to the single id NULL;
- `query` runs the request on the SQLite database of `--db` or of the settings and
  prints the result as indented JSON.

Every failure is one line on the error output and ends the run with status 1; a usage
error ends it with status 2.
-/

namespace ScimQuery.Cli

/-- How a run ends. -/
inductive Exit where
  | success
  | failure
  | usage
deriving DecidableEq, Repr

/-- The status code of an end. -/
def Exit.code : Exit → Nat
  | .success => 0
  | .failure => 1
  | .usage => 2

/-- What a run prints and how it ends. -/
structure Outcome where
  exit : Exit
  stdout : String
  stderr : String
deriving Repr

/-- A run that prints its text. -/
def succeed (text : String) : Outcome := ⟨.success, text, ""⟩

/-- A run that fails with one line. -/
def fail (line : String) : Outcome := ⟨.failure, "", line ++ "\n"⟩

/-- The request the options describe. -/
def RequestOptions.toRequest (o : RequestOptions) : Except String QueryRequest := do
  let r := (QueryRequest.new o.resource o.tenant).withPage o.startIndex o.count
  let r ← match o.filter with
    | some text =>
      match Json.parse text >>= FilterNode.ofJson? with
      | some f => pure (r.withFilter f)
      | none => throw "Invalid filter JSON: the text is no filter tree"
    | none => pure r
  let r := match o.sortBy with
    | some p => r.withSortBy p
    | none => r
  pure (match o.sortOrder with
    | some s => r.withSortOrder s
    | none => r)

/-- The listing of `check`. -/
def checkText (reg : Registry) : String :=
  "Resource types:\n" ++
  String.join (reg.resources.map fun r =>
    "  - " ++ r.name ++ " (" ++ r.schema ++ ", root " ++ r.root.render ++ "): " ++
      toString r.attributes.length ++ " attributes, " ++
      toString r.associations.length ++ " associations\n" ++
    String.join (r.extensions.map fun e => "      extension " ++ e ++ "\n")) ++
  "\nSelf-check passed\n"

/-- A statement of `plan` under its title, with its parameters when it has any. -/
def statementText (title : String) (b : Sql.Bound) : String :=
  "-- " ++ title ++ "\n" ++ b.sql ++ ";\n" ++
  (if b.params.isEmpty then ""
   else "-- params: [" ++ ", ".intercalate (b.params.map Sql.Value.debug) ++ "]\n") ++
  "\n"

/-- The listing of `plan`. -/
def planText (d : Sql.Dialect) (p : PlannedQuery) : String :=
  "-- Resource: " ++ p.resource ++ "\n" ++
  "-- Dialect: " ++ d.name ++ "\n" ++
  "-- Page: startIndex=" ++ toString p.page.startIndex ++ " offset=" ++
    toString p.page.offset ++ " limit=" ++ toString p.page.limit ++ "\n" ++
  "-- Columns: " ++ ", ".intercalate p.labels ++ "\n\n" ++
  statementText "Rows" (p.rows.query.bind d) ++
  statementText "Count" (p.count.query.bind d) ++
  String.join (p.associations.map fun a =>
    "-- Association: " ++ a.name ++ " (bound to the ids of the page)\n" ++
    ((a.queryFor [.null]).bind d).sql ++ ";\n\n")

/-- A value as plain JSON. -/
def valueJson : Sql.Value → Json
  | .null => .null
  | .bool b => .bool b
  | .int n => .int n
  | .float x => .float x
  | .text s => .str s

/-- Labelled values as a JSON object. -/
def labelledJson (m : Labelled Sql.Value) : Json := .obj (m.map fun (k, v) => (k, valueJson v))

/-- A row as JSON; its collections are left out when it has none. -/
def rowJson (r : ResultRow) : Json :=
  .obj ([("id", valueJson r.id), ("attributes", labelledJson r.attributes)] ++
    (if r.collections.isEmpty then []
     else [("collections", .obj (r.collections.map fun (k, ms) => (k, .arr (ms.map labelledJson))))]))

/-- A result as JSON. -/
def resultJson (q : QueryResult) : Json :=
  .obj [("totalResults", .int q.totalResults), ("startIndex", .int q.startIndex),
    ("itemsPerPage", .int q.itemsPerPage), ("rows", .arr (q.rows.map rowJson))]

section

variable [Monad m] (h : Host m)

/-- The registry of the catalog a run uses. -/
def registryFor (explicit : Option String) (settings : Settings) : m (Except String Registry) := do
  let path : Except String (Option String) ← match explicit with
    | some p => pure (.ok (some p))
    | none => do pure ((← h.resolvePath settings.catalogPath).mapError SettingsError.message)
  match path with
  | .error msg => pure (.error msg)
  | .ok none => pure ((Registry.ofDecl Catalog.builtin).mapError QueryError.message)
  | .ok (some p) =>
    match ← h.loadCatalog p with
    | .error e => pure (.error e.message)
    | .ok decl => pure ((Registry.ofDecl decl).mapError QueryError.message)

/-- Runs `plan`. -/
def runPlan (reg : Registry) (settings : Settings) (o : RequestOptions)
    (dialect : Option Sql.Dialect) : Outcome :=
  let d := dialect.getD settings.query.dialect
  match o.toRequest with
  | .error msg => fail msg
  | .ok r =>
    match reg.plan { settings.query with dialect := d } r with
    | .error e => fail ("Planning error: " ++ e.message)
    | .ok p => succeed (planText d p)

/-- Runs `query`. -/
def runQuery (reg : Registry) (settings : Settings) (o : RequestOptions)
    (database : Option String) : m Outcome := do
  let path : Except String String ← match database with
    | some p => pure (.ok p)
    | none => do
      match ← h.resolvePath settings.databasePath with
      | .ok (some p) => pure (.ok p)
      | .ok none => pure (.error "No database given: pass --db or set database.path")
      | .error e => pure (.error ("Configuration error: " ++ e.message))
  match path with
  | .error line => pure (fail line)
  | .ok path =>
    match o.toRequest with
    | .error msg => pure (fail msg)
    | .ok r =>
      match ← openDatabase h path with
      | .error msg => pure (fail ("Error opening database '" ++ path ++ "': " ++ msg))
      | .ok conn =>
        match conn.query reg { settings.query with dialect := .sqlite } r with
        | .error e => pure (fail ("Query error: " ++ e.message))
        | .ok result => pure (succeed (Json.pretty 0 (resultJson result) ++ "\n"))

/-- Runs a command line on a host. -/
def run (args : List String) : m Outcome := do
  match parseArgs args with
  | .help topic => pure (succeed (helpText topic))
  | .version => pure (succeed versionText)
  | .usage msg => pure ⟨.usage, "", "error: " ++ msg ++ "\n"⟩
  | .run inv =>
    let settings ← match inv.config with
      | some p => h.settingsFrom p
      | none => h.loadSettings
    match settings with
    | .error e => pure (fail ("Configuration error: " ++ e.message))
    | .ok settings =>
      match ← registryFor h inv.catalog settings with
      | .error msg => pure (fail ("Catalog error: " ++ msg))
      | .ok reg =>
        match inv.command with
        | .check => pure (succeed (checkText reg))
        | .plan o dialect => pure (runPlan reg settings o dialect)
        | .query o database => runQuery h reg settings o database

end

end ScimQuery.Cli
