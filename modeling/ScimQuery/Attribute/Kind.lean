/-! # Attribute types

The SCIM data types an attribute can have. Strings and references are textual: they
compare as text and, unless case-exact, without regard to case.
-/

namespace ScimQuery

/-- The data type of an attribute. -/
inductive AttributeKind where
  | string
  | reference
  | boolean
  | integer
  | decimal
  | dateTime
deriving DecidableEq, Repr, Inhabited

namespace AttributeKind

/-- Whether values of the type are text. -/
def isTextual : AttributeKind → Bool
  | .string | .reference => true
  | _ => false

/-- The SCIM name of the type. -/
def name : AttributeKind → String
  | .string => "string"
  | .reference => "reference"
  | .boolean => "boolean"
  | .integer => "integer"
  | .decimal => "decimal"
  | .dateTime => "dateTime"

/-- The type a catalog declares by its snake-case name. -/
def ofDeclared? : String → Option AttributeKind
  | "string" => some .string
  | "reference" => some .reference
  | "boolean" => some .boolean
  | "integer" => some .integer
  | "decimal" => some .decimal
  | "date_time" => some .dateTime
  | _ => none

end AttributeKind

end ScimQuery
