import ScimQuery.Json.Basic

/-! # Reading records from JSON

The field rules of records read from JSON: a required field must be present and of its
type; a field with a default may be missing, but when present it must be of its type,
`null` included; an optional field may be missing or `null`. Other members are ignored.

A record may also be given as the sequence of its field values in declaration order. A
shorter sequence leaves the last fields missing; a longer one is refused. The name of a
case without data is given as a string, or as an object with that name as its one key
and `null` as its value.
-/

namespace ScimQuery.Json

/-- A required field. -/
def required (j : Json) (key : String) (dec : Json → Option α) : Option α :=
  (j.get? key).bind dec

/-- A field with a default. -/
def withDefault (j : Json) (key : String) (dec : Json → Option α) (d : α) : Option α :=
  match j.get? key with
  | none => some d
  | some v => dec v

/-- An optional field. -/
def optional (j : Json) (key : String) (dec : Json → Option α) : Option (Option α) :=
  match j.get? key with
  | none | some .null => some none
  | some v => (dec v).map some

/-- A list of items. -/
def list (dec : Json → Option α) (j : Json) : Option (List α) :=
  j.arr?.bind fun items => items.mapM dec

/-- The members of a record with the given fields, given as an object or a sequence. -/
def record? (names : List String) : Json → Option Json
  | .obj members => some (.obj members)
  | .arr items => if items.length ≤ names.length then some (.obj (names.zip items)) else none
  | _ => none

/-- The name of a case without data. -/
def tag? : Json → Option String
  | .str s => some s
  | .obj [(s, .null)] => some s
  | _ => none

/-- Whether a document is an object. -/
def isObj : Json → Bool
  | .obj _ => true
  | _ => false

end ScimQuery.Json
