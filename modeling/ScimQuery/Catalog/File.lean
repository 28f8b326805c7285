import ScimQuery.Catalog.Json
import ScimQuery.Error
import ScimQuery.Config.Host
import ScimQuery.Toml.Document

/-! # Catalog files

A catalog file is a TOML document of the same shape as a catalog declaration in JSON. A
file that cannot be read is refused with its path and the reason; a text that is no
catalog declaration is refused without one.
-/

namespace ScimQuery

/-- Reads a catalog declaration from the text of a file. -/
def CatalogDecl.ofToml (text : String) : Except QueryError CatalogDecl :=
  match Toml.parse text >>= CatalogDecl.ofJson? with
  | some d => .ok d
  | none => .error (.malformedCatalog "TOML parse error")

/-- Loads the catalog declaration of a file. -/
def Host.loadCatalog [Monad m] (h : Host m) (path : String) : m (Except QueryError CatalogDecl) := do
  match (← h.find path).readText with
  | .error reason => pure (.error (.unreadableCatalog path reason))
  | .ok text => pure (CatalogDecl.ofToml text)

end ScimQuery
