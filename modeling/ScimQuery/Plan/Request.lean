import ScimQuery.Filter.Node
import ScimQuery.Plan.Page
import ScimQuery.Plan.SortKey

/-! # List requests

A list request names a resource type and a tenant, and may carry a filter, an attribute
and direction to sort by, and a page. Its builders set one part each.
-/

namespace ScimQuery

/-- One list or search request for a resource type within a tenant. -/
structure QueryRequest where
  resource : String
  tenant : String
  filter : Option FilterNode := none
  sortBy : Option String := none
  sortOrder : Option SortOrder := none
  startIndex : Int := 1
  count : Option Int := none
deriving Inhabited

namespace QueryRequest

/-- A request for the first default page, without filter or sort. -/
def new (resource tenant : String) : QueryRequest := { resource, tenant }

/-- Sets the filter. -/
def withFilter (r : QueryRequest) (f : FilterNode) : QueryRequest := { r with filter := some f }

/-- Sets the attribute to sort by. -/
def withSortBy (r : QueryRequest) (path : String) : QueryRequest := { r with sortBy := some path }

/-- Sets the direction. -/
def withSortOrder (r : QueryRequest) (o : SortOrder) : QueryRequest :=
  { r with sortOrder := some o }

/-- Sets the start and the size of the page. -/
def withPage (r : QueryRequest) (startIndex : Int) (count : Option Int) : QueryRequest :=
  { r with startIndex, count }

/-- The paging part. -/
def pageRequest (r : QueryRequest) : PageRequest := ⟨r.startIndex, r.count⟩

/-- Equality of requests, with filters compared as trees. -/
def beq (a b : QueryRequest) : Bool :=
  a.resource == b.resource && a.tenant == b.tenant && a.filter == b.filter &&
    a.sortBy == b.sortBy && a.sortOrder == b.sortOrder && a.startIndex == b.startIndex &&
    a.count == b.count

instance : BEq QueryRequest := ⟨beq⟩

end QueryRequest

end ScimQuery
