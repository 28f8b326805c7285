import ScimQuery.Filter.Node
import ScimQuery.Json.Decode

/-! # Filters as JSON

A literal is written untagged: `null`, a boolean, an integer, a number or a string. An
integer beyond the signed 64-bit range but within the unsigned one is read as the
nearest binary64 value. A filter is written with one key naming its kind:
`{"comparison": {"path", "op", "value"}}`, `{"and": [l, r]}`, `{"or": [l, r]}` and
`{"not": c}`. A missing value reads as null; operators are written in lower case.
-/

namespace ScimQuery

namespace FilterValue

/-- Reads a literal; arrays and objects are no literals. -/
def ofJson? : Json → Option FilterValue
  | .null => some .null
  | .bool b => some (.bool b)
  | .int n =>
    if Json.i64Min ≤ n ∧ n ≤ Json.i64Max then some (.int n)
    else if n ≤ Json.u64Max then some (.float (Decimal.ofInt n)) else none
  | .float x => some (.float x)
  | .str s => some (.string s)
  | _ => none

/-- Writes a literal. -/
def toJson : FilterValue → Json
  | .null => .null
  | .bool b => .bool b
  | .int n => .int n
  | .float x => .float x
  | .string s => .str s

end FilterValue

namespace FilterNode

/-- Reads the fields of a comparison, given as an object or as a sequence. -/
def comparisonOfJson? (j : Json) : Option FilterNode :=
  let build (path op : Json) (value : Option Json) : Option FilterNode := do
    let path ← path.str?
    let op ← op.tag? >>= CompareOp.ofName?
    let value ← match value with
      | some v => FilterValue.ofJson? v
      | none => some .null
    pure (.comparison path op value)
  match j with
  | .obj _ => do
    let path ← j.get? "path"
    let op ← j.get? "op"
    build path op (j.get? "value")
  | .arr [path, op] => build path op none
  | .arr [path, op, value] => build path op (some value)
  | _ => none

/-- Reads a filter; `fuel` bounds the depth of the tree. -/
def ofJsonFuel : Nat → Json → Option FilterNode
  | 0, _ => none
  | fuel + 1, j =>
    match j with
    | .obj [(key, body)] =>
      match key with
      | "comparison" => comparisonOfJson? body
      | "and" =>
        match body with
        | .arr [l, r] => do pure (.and (← ofJsonFuel fuel l) (← ofJsonFuel fuel r))
        | _ => none
      | "or" =>
        match body with
        | .arr [l, r] => do pure (.or (← ofJsonFuel fuel l) (← ofJsonFuel fuel r))
        | _ => none
      | "not" => (ofJsonFuel fuel body).map .not
      | _ => none
    | _ => none

/-- Reads a filter. -/
def ofJson? (j : Json) : Option FilterNode := ofJsonFuel j.size j

/-- Writes a filter, a comparison with its fields `path`, `op` and `value` in this order. -/
def toJson : FilterNode → Json
  | .comparison path op value =>
    .obj [("comparison", .obj [("path", .str path), ("op", .str op.name), ("value", value.toJson)])]
  | .and l r => .obj [("and", .arr [l.toJson, r.toJson])]
  | .or l r => .obj [("or", .arr [l.toJson, r.toJson])]
  | .not c => .obj [("not", c.toJson)]

end FilterNode

end ScimQuery
