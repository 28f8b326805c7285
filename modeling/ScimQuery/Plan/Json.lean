import ScimQuery.Plan.Request
import ScimQuery.Filter.Json
import ScimQuery.Json.Decode

/-! # Requests as JSON

A request is an object with the members `resource`, `tenant`, `filter`, `sortBy`,
`sortOrder`, `startIndex` and `count`. The resource and the tenant are required, the
start defaults to 1 and the others may be missing or `null`. Written out, every member
is present, an absent one as `null`.
-/

namespace ScimQuery

open Json

/-- Reads a direction. -/
def SortOrder.ofJson? (j : Json) : Option SortOrder := j.tag? >>= SortOrder.ofName?

/-- Reads a request. -/
def QueryRequest.ofJson? (j : Json) : Option QueryRequest := do
  let j ← record? ["resource", "tenant", "filter", "sortBy", "sortOrder", "startIndex", "count"] j
  pure { resource := ← required j "resource" str?, tenant := ← required j "tenant" str?,
         filter := ← optional j "filter" FilterNode.ofJson?,
         sortBy := ← optional j "sortBy" str?,
         sortOrder := ← optional j "sortOrder" SortOrder.ofJson?,
         startIndex := ← withDefault j "startIndex" i64? 1,
         count := ← optional j "count" i64? }

/-- Writes a request. -/
def QueryRequest.toJson (r : QueryRequest) : Json :=
  .obj [("resource", .str r.resource), ("tenant", .str r.tenant),
    ("filter", (r.filter.map FilterNode.toJson).getD .null),
    ("sortBy", (r.sortBy.map .str).getD .null),
    ("sortOrder", (r.sortOrder.map (.str ·.name)).getD .null),
    ("startIndex", .int r.startIndex), ("count", (r.count.map .int).getD .null)]

end ScimQuery
