import ScimQuery.Config.Settings
import ScimQuery.Json.Decode

/-! # Settings as JSON

Query settings are read from an object with the members `dialect`, `default_count` and
`max_results`, each of which may be missing and then takes its default; a member that is
present must be of its type. The dialect is written by its lower-case name.
-/

namespace ScimQuery

open Json

/-- Reads a dialect. -/
def Sql.Dialect.ofJson? (j : Json) : Option Sql.Dialect := j.tag? >>= Sql.Dialect.ofName?

/-- Reads query settings. -/
def QuerySettings.ofJson? (j : Json) : Option QuerySettings := do
  let j ← record? ["dialect", "default_count", "max_results"] j
  pure { dialect := ← withDefault j "dialect" Sql.Dialect.ofJson? .postgres,
         defaultCount := ← withDefault j "default_count" u64? 100,
         maxResults := ← withDefault j "max_results" u64? 1000 }

/-- Writes query settings. -/
def QuerySettings.toJson (s : QuerySettings) : Json :=
  .obj [("dialect", .str s.dialect.name), ("default_count", .int s.defaultCount),
    ("max_results", .int s.maxResults)]

end ScimQuery
