import ScimQuery.Decimal.Layout

/-! # Filter literals and operators

The literal on the right of a SCIM comparison and the comparison operators. A literal
is written as in a filter: `null`, `true`, digits, a number in plain notation, or a
string in double quotes with its backslashes and quotes escaped by a backslash.
-/

namespace ScimQuery

/-- The literal of a comparison. -/
inductive FilterValue where
  | null
  | bool (b : Bool)
  /-- a signed 64-bit integer -/
  | int (n : Int)
  | float (x : Float)
  | string (s : String)
deriving Inhabited

namespace FilterValue

/-- A string in double quotes, with `\` and `"` escaped by a backslash. -/
def quoteString (s : String) : String :=
  "\"" ++ String.ofList (s.toList.flatMap fun c =>
    if c = '\\' then ['\\', '\\'] else if c = '"' then ['\\', '"'] else [c]) ++ "\""

/-- The text of a literal as a filter writes it. -/
def render : FilterValue → String
  | .null => "null"
  | .bool b => if b then "true" else "false"
  | .int n => toString n
  | .float x => Decimal.FloatFormat.plain.text x
  | .string s => quoteString s

/-- Equality of literals, floats compared by value. -/
def beq : FilterValue → FilterValue → Bool
  | .null, .null => true
  | .bool a, .bool b => a == b
  | .int a, .int b => a == b
  | .float a, .float b => a == b
  | .string a, .string b => a == b
  | _, _ => false

instance : BEq FilterValue := ⟨beq⟩

end FilterValue

/-- A comparison operator of a SCIM filter. -/
inductive CompareOp where
  | eq | ne | co | sw | ew | gt | ge | lt | le | pr
deriving DecidableEq, Repr, Inhabited

namespace CompareOp

/-- The name of an operator. -/
def name : CompareOp → String
  | .eq => "eq" | .ne => "ne" | .co => "co" | .sw => "sw" | .ew => "ew"
  | .gt => "gt" | .ge => "ge" | .lt => "lt" | .le => "le" | .pr => "pr"

/-- The operator of a name, in lower case only. -/
def ofName? : String → Option CompareOp
  | "eq" => some .eq | "ne" => some .ne | "co" => some .co | "sw" => some .sw
  | "ew" => some .ew | "gt" => some .gt | "ge" => some .ge | "lt" => some .lt
  | "le" => some .le | "pr" => some .pr
  | _ => none

/-- Whether an operator matches a pattern: contains, starts with, ends with. -/
def isPattern : CompareOp → Bool
  | .co | .sw | .ew => true
  | _ => false

end CompareOp

end ScimQuery
