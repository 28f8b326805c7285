import ScimQuery.Sql.Value
import ScimQuery.Json.Basic

/-! # SQL values as JSON

A value is written untagged: `null`, a boolean, an integer, a number or a string. Read
back, an integer beyond the signed 64-bit range but within the unsigned one becomes the
nearest binary64 value; arrays and objects are no values.
-/

namespace ScimQuery.Sql.Value

/-- Reads a value. -/
def ofJson? : Json → Option Value
  | .null => some .null
  | .bool b => some (.bool b)
  | .int n =>
    if Json.i64Min ≤ n ∧ n ≤ Json.i64Max then some (.int n)
    else if n ≤ Json.u64Max then some (.float (Decimal.ofInt n)) else none
  | .float x => some (.float x)
  | .str s => some (.text s)
  | _ => none

/-- Writes a value. -/
def toJson : Value → Json
  | .null => .null
  | .bool b => .bool b
  | .int n => .int n
  | .float x => .float x
  | .text s => .str s

end ScimQuery.Sql.Value
