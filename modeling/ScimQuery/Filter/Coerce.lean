import ScimQuery.Catalog.Location
import ScimQuery.Filter.Timestamp
import ScimQuery.Decimal.Parse
import ScimQuery.Error

/-! # Literals for attributes

An operator must suit the attribute's type: presence always does; text takes every
operator; booleans only `eq` and `ne`; numbers and timestamps every operator but the
patterns. A literal is then turned into the value bound for the column. Text takes any
literal as its text. A boolean takes a boolean or the text `true` or `false` in any ASCII
case. An integer takes an integer, an integral number within the 64-bit range (saturated
at its ends), or a text that is an integer once trimmed. A decimal takes an integer as
the nearest binary64 value, a finite number, or a text that is a finite number once
trimmed. A timestamp takes an RFC 3339 text, trimmed, as milliseconds since the epoch.
Null is never a value to compare with.
-/

namespace ScimQuery

/-- Whether an operator suits a type. -/
def CompareOp.suits (op : CompareOp) (kind : AttributeKind) : Bool :=
  op = .pr ||
    match kind with
    | .string | .reference => true
    | .boolean => op = .eq || op = .ne
    | .integer | .decimal | .dateTime => !op.isPattern

/-- Refuses an operator that does not suit the attribute's type. -/
def checkOperator (a : AttributeLocation) (path : String) (op : CompareOp) (value : FilterValue) :
    Except QueryError Unit :=
  if op.suits a.kind then .ok ()
  else .error (.invalidFilterValue path value (.unsupportedOperator op a.kind))

/-- The integer of an integral binary64 value within the 64-bit range, the value `2^63`
saturating to the greatest 64-bit integer. -/
def integralOf? (x : Float) : Option Int :=
  match Decimal.toInt? x with
  | some n =>
    if Json.i64Min ≤ n ∧ n ≤ Json.i64Max + 1 then some (min n Json.i64Max) else none
  | none => none

/-- The value bound for a literal compared with an attribute of the given type, or the
problem with the literal. -/
def coerceValue (kind : AttributeKind) (value : FilterValue) : Except ValueProblem Sql.Value :=
  match kind, value with
  | _, .null => .error .nullNeedsEquality
  | .string, v | .reference, v =>
    match v with
    | .string s => .ok (.text s)
    | .int n => .ok (.text (toString n))
    | .float x => .ok (.text (Decimal.FloatFormat.plain.text x))
    | .bool b => .ok (.text (if b then "true" else "false"))
    | .null => .error .nullNeedsEquality
  | .boolean, .bool b => .ok (.bool b)
  | .boolean, .string s =>
    match Text.lowerAscii s with
    | "true" => .ok (.bool true)
    | "false" => .ok (.bool false)
    | _ => .error .notBoolean
  | .boolean, _ => .error .notBoolean
  | .integer, .int n => .ok (.int n)
  | .integer, .float x =>
    match integralOf? x with
    | some n => .ok (.int n)
    | none => .error .notInteger
  | .integer, .string s =>
    match Decimal.parseInt64? (Text.trim s) with
    | some n => .ok (.int n)
    | none => .error .notInteger
  | .integer, _ => .error .notInteger
  | .decimal, .int n => .ok (.float (Decimal.ofInt n))
  | .decimal, .float x => if Decimal.isFinite x then .ok (.float x) else .error .notDecimal
  | .decimal, .string s =>
    match Decimal.parseFloat? (Text.trim s) with
    | some x => if Decimal.isFinite x then .ok (.float x) else .error .notDecimal
    | none => .error .notDecimal
  | .decimal, _ => .error .notDecimal
  | .dateTime, .string s =>
    match Timestamp.parseMillis? (Text.trim s) with
    | some ms => .ok (.int ms)
    | none => .error .notTimestamp
  | .dateTime, _ => .error .notTimestamp

/-- The value bound for a literal compared with an attribute. -/
def coerce (a : AttributeLocation) (path : String) (value : FilterValue) :
    Except QueryError Sql.Value :=
  (coerceValue a.kind value).mapError (.invalidFilterValue path value ·)

end ScimQuery
