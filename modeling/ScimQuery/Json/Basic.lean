/-! # JSON documents

A JSON document as it is read and written here. Numbers keep the distinction that a
literal makes: a literal without fraction or exponent that fits a 64-bit integer, signed
or unsigned, is an integer, and every other literal is a binary64 value. Object members
keep their order; when a key occurs twice, the last occurrence is the one looked up.
-/

namespace ScimQuery

/-- A JSON document. -/
inductive Json where
  | null
  | bool (b : Bool)
  | int (n : Int)
  | float (x : Float)
  | str (s : String)
  | arr (items : List Json)
  | obj (fields : List (String × Json))
deriving Inhabited

namespace Json

/-- The member of an object under `key`, the last one when the key occurs twice. -/
def get? (j : Json) (key : String) : Option Json :=
  match j with
  | .obj fields => (fields.reverse.find? (·.1 = key)).map (·.2)
  | _ => none

/-- A member that is present and not `null`, as an optional field is read. -/
def field? (j : Json) (key : String) : Option Json :=
  match j.get? key with
  | some .null => none
  | other => other

/-- The text of a string document. -/
def str? : Json → Option String
  | .str s => some s
  | _ => none

/-- The value of a boolean document. -/
def bool? : Json → Option Bool
  | .bool b => some b
  | _ => none

/-- The items of an array document. -/
def arr? : Json → Option (List Json)
  | .arr items => some items
  | _ => none

/-- The members of an object document. -/
def obj? : Json → Option (List (String × Json))
  | .obj fields => some fields
  | _ => none

/-- An integer literal within `[lo, hi]`. -/
def intIn? (lo hi : Int) : Json → Option Int
  | .int n => if lo ≤ n ∧ n ≤ hi then some n else none
  | _ => none

/-- The least and the greatest signed 64-bit integer. -/
def i64Min : Int := -9223372036854775808
def i64Max : Int := 9223372036854775807
/-- The greatest unsigned 64-bit integer. -/
def u64Max : Int := 18446744073709551615

/-- An integer literal that fits a signed 64-bit integer. -/
def i64? : Json → Option Int := intIn? i64Min i64Max

/-- An integer literal that fits an unsigned 64-bit integer. -/
def u64? : Json → Option Nat := fun j => (intIn? 0 u64Max j).map Int.toNat

mutual

/-- The number of values in a document, itself included. -/
def size : Json → Nat
  | .arr items => 1 + sizeItems items
  | .obj fields => 1 + sizeFields fields
  | _ => 1

/-- The number of values in a list of documents. -/
def sizeItems : List Json → Nat
  | [] => 0
  | v :: rest => size v + sizeItems rest

/-- The number of values in the members of an object. -/
def sizeFields : List (String × Json) → Nat
  | [] => 0
  | (_, v) :: rest => size v + sizeFields rest

end

/-- Builds an object from members that may be left out. -/
def objOpt (fields : List (String × Option Json)) : Json :=
  .obj (fields.filterMap fun (k, v) => v.map (k, ·))

end Json

end ScimQuery
