import ScimQuery.Sql.Dialect

/-! # Settings

The settings of the query layer: the dialect statements are written in, the page size of
a request without `count` and the largest page a request may ask for. Settings are valid
when the largest page holds at least one row and the default page fits in it. The
command line also reads where its database and catalog live, and the errors of reading
settings are collected in `SettingsError`.
-/

namespace ScimQuery

/-- Why settings could not be read or were refused. -/
inductive SettingsError where
  | fileNotFound (path : String)
  | readError (reason : String)
  /-- the text is no settings document; the reader's own words are not kept -/
  | parseError
  | missingEnvVar (name : String)
  | invalidConfig (reason : String)
deriving Repr, DecidableEq

/-- The text of a settings error. -/
def SettingsError.message : SettingsError → String
  | .fileNotFound path => "Config file not found: " ++ path
  | .readError reason => "Failed to read config file: " ++ reason
  | .parseError => "Failed to parse config file"
  | .missingEnvVar name => "Missing environment variable: " ++ name
  | .invalidConfig reason => "Invalid configuration: " ++ reason

/-- Dialect and page limits of the query layer. The counts are unsigned 64-bit words. -/
structure QuerySettings where
  dialect : Sql.Dialect := .postgres
  defaultCount : Nat := 100
  maxResults : Nat := 1000
deriving Repr, DecidableEq, Inhabited

/-- Settings are valid when a page may hold a row and the default page is not larger
than the largest. -/
def QuerySettings.validate (s : QuerySettings) : Except SettingsError Unit :=
  if s.maxResults = 0 then .error (.invalidConfig "query.max_results must be at least 1")
  else if s.defaultCount > s.maxResults then
    .error (.invalidConfig ("query.default_count (" ++ toString s.defaultCount ++
      ") exceeds query.max_results (" ++ toString s.maxResults ++ ")"))
  else .ok ()

/-- All settings: the query layer, and the database and catalog files of the command
line, whose paths may refer to environment variables. -/
structure Settings where
  query : QuerySettings := {}
  databasePath : Option String := none
  catalogPath : Option String := none
deriving Repr, Inhabited

end ScimQuery
