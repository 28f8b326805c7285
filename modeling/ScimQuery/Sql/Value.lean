import ScimQuery.Decimal.Layout
import ScimQuery.Text.Debug

/-! # SQL values

A value bound to a parameter or read back from a database: NULL, a boolean, a 64-bit
integer, a binary64 number or a text. Its text is what a report shows (`NULL`, `true`,
digits, the float layout of SQL, the text itself); its debug text names the kind, as in
`Int(3)` or `Text("a")`.
-/

namespace ScimQuery.Sql

/-- A value bound to a parameter or read back from a database. -/
inductive Value where
  | null
  | bool (b : Bool)
  /-- a signed 64-bit integer -/
  | int (n : Int)
  | float (x : Float)
  | text (s : String)
deriving Inhabited

namespace Value

/-- The text of a value. -/
def render : Value → String
  | .null => "NULL"
  | .bool b => if b then "true" else "false"
  | .int n => toString n
  | .float x => Decimal.FloatFormat.sql.text x
  | .text s => s

/-- The debug text of a value, naming its kind. -/
def debug : Value → String
  | .null => "Null"
  | .bool b => "Bool(" ++ (if b then "true" else "false") ++ ")"
  | .int n => "Int(" ++ toString n ++ ")"
  | .float x => "Float(" ++ Decimal.FloatFormat.debug.text x ++ ")"
  | .text s => "Text(" ++ Text.debugQuote s ++ ")"

/-- Whether a value is NULL. -/
def isNull : Value → Bool
  | .null => true
  | _ => false

/-- Equality of values as the library compares them: floats by their numeric value, so
that `0.0` and `-0.0` are equal and NaN equals nothing. -/
def beq : Value → Value → Bool
  | .null, .null => true
  | .bool a, .bool b => a == b
  | .int a, .int b => a == b
  | .float a, .float b => a == b
  | .text a, .text b => a == b
  | _, _ => false

instance : BEq Value := ⟨beq⟩

end Value

end ScimQuery.Sql
