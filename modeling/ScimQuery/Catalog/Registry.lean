import ScimQuery.Catalog.Mapping

/-! # Resource registries

The resource types a service offers, each checked by its self-check, with no two of one
name up to ASCII case. A type is found by its name or by its endpoint, both without
regard to ASCII case and the endpoint without leading slashes.
-/

namespace ScimQuery

/-- Checked resource mappings in declaration order. -/
structure Registry where
  resources : List ResourceMapping
deriving Inhabited

namespace Registry

/-- Checks each mapping in turn: its name must be new, then its self-check must pass. -/
def ofMappings (rs : List ResourceMapping) : Except QueryError Registry := do
  let _ ← rs.foldlM (fun (earlier : List ResourceMapping) r => do
    if earlier.any (Text.eqIgnoreAsciiCase ·.name r.name) then throw (.registeredTwice r.name)
    r.selfCheck
    pure (earlier ++ [r])) []
  pure ⟨rs⟩

/-- Builds every mapping of a catalog, then checks them. -/
def ofDecl (c : CatalogDecl) : Except QueryError Registry := do
  ofMappings (← c.resources.mapM ResourceMapping.ofDecl)

/-- A text without its leading slashes. -/
def dropSlashes (s : String) : String := String.ofList (s.toList.dropWhile (· = '/'))

/-- The resource type of a name or an endpoint. -/
def get (r : Registry) (name : String) : Except QueryError ResourceMapping :=
  let endpoint := dropSlashes name
  match r.resources.find? (fun m => Text.eqIgnoreAsciiCase m.name name ||
      m.endpoint.any fun e => Text.eqIgnoreAsciiCase (dropSlashes e) endpoint) with
  | some m => .ok m
  | none => .error (.unknownResourceType name)

end Registry

end ScimQuery
