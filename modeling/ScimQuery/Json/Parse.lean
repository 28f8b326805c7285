import ScimQuery.Json.Basic
import ScimQuery.Decimal.Scaled

/-! # Reading JSON text

The grammar of JSON (RFC 8259) without extensions: no comments, no trailing commas, no
`NaN`, and a number out of the binary64 range makes the text unreadable. A `\u` escape
of a high surrogate must be followed by one of a low surrogate.
-/

namespace ScimQuery.Json

/-- Whitespace between tokens. -/
def isBlank (c : Char) : Bool := c = ' ' || c = '\t' || c = '\n' || c = '\r'

/-- The value of a hexadecimal digit. -/
def hexValue (c : Char) : Option Nat :=
  if '0' ≤ c ∧ c ≤ '9' then some (c.toNat - '0'.toNat)
  else if 'a' ≤ c ∧ c ≤ 'f' then some (c.toNat - 'a'.toNat + 10)
  else if 'A' ≤ c ∧ c ≤ 'F' then some (c.toNat - 'A'.toNat + 10)
  else none

/-- The number written by four hexadecimal digits. -/
def hex4 (a b c d : Char) : Option Nat := do
  pure ((((← hexValue a) * 16 + (← hexValue b)) * 16 + (← hexValue c)) * 16 + (← hexValue d))

/-- Reads the rest of a string after its opening quote, returning its text and what
follows the closing quote. -/
def readString : List Char → List Char → Option (String × List Char)
  | [], _ => none
  | '"' :: rest, acc => some (String.ofList acc.reverse, rest)
  | '\\' :: 'u' :: a :: b :: c :: d :: rest, acc =>
    match hex4 a b c d with
    | none => none
    | some hi =>
      if 0xD800 ≤ hi ∧ hi < 0xDC00 then
        match rest with
        | '\\' :: 'u' :: e :: f :: g :: h :: rest' =>
          match hex4 e f g h with
          | some lo =>
            if 0xDC00 ≤ lo ∧ lo < 0xE000 then
              readString rest' (Char.ofNat (0x10000 + (hi - 0xD800) * 0x400 + (lo - 0xDC00)) :: acc)
            else none
          | none => none
        | _ => none
      else if 0xDC00 ≤ hi ∧ hi < 0xE000 then none
      else readString rest (Char.ofNat hi :: acc)
  | '\\' :: e :: rest, acc =>
    match e with
    | '"' => readString rest ('"' :: acc)
    | '\\' => readString rest ('\\' :: acc)
    | '/' => readString rest ('/' :: acc)
    | 'b' => readString rest ('\x08' :: acc)
    | 'f' => readString rest ('\x0c' :: acc)
    | 'n' => readString rest ('\n' :: acc)
    | 'r' => readString rest ('\r' :: acc)
    | 't' => readString rest ('\t' :: acc)
    | _ => none
  | c :: rest, acc => if c.toNat < 0x20 then none else readString rest (c :: acc)

/-- The number written by decimal digits. -/
def digitsValue (ds : List Char) : Nat :=
  ds.foldl (fun n c => n * 10 + (c.toNat - '0'.toNat)) 0

/-- Whether appending `digit` to a significand would pass the largest 64-bit unsigned
integer, `18446744073709551615`. -/
def significandFull (s digit : Nat) : Bool :=
  s > 1844674407370955161 || (s = 1844674407370955161 && digit > 5)

/-- The value of a digit character. -/
def digitValue (c : Char) : Nat := c.toNat - '0'.toNat

/-- Takes the digits of the whole part into the significand `s` while it fits 64 bits;
each digit after that raises the exponent instead. Returns the significand, the
exponent and whether any digit was left out. -/
def wholeDigits : List Char → Nat → Nat × Int × Bool
  | [], s => (s, 0, false)
  | c :: cs, s =>
    if significandFull s (digitValue c) then (s, (cs.length + 1 : Nat), true)
    else wholeDigits cs (s * 10 + digitValue c)

/-- Takes the digits of a fraction into the significand while it fits 64 bits, each
lowering the exponent; from the first digit that does not fit on, the rest are left
out. -/
def fractionDigits : List Char → Nat → Int → Nat × Int
  | [], s, e => (s, e)
  | c :: cs, s, e =>
    if significandFull s (digitValue c) then (s, e)
    else fractionDigits cs (s * 10 + digitValue c) (e - 1)

/-- The least signed 32-bit integer. -/
def i32Min : Int := -2147483648
/-- The greatest signed 32-bit integer. -/
def i32Max : Int := 2147483647

/-- The value of exponent digits while it fits a signed 32-bit integer; `none` once a
digit would pass it. -/
def exponentDigits : List Char → Nat → Option Nat
  | [], e => some e
  | c :: cs, e =>
    if e > 214748364 || (e = 214748364 && digitValue c > 7) then none
    else exponentDigits cs (e * 10 + digitValue c)

/-- A signed binary64 value from the bits of its magnitude. -/
def signedFloat (negative : Bool) (magnitude : UInt64) : Float :=
  Float.ofBits (if negative then magnitude ||| 0x8000000000000000 else magnitude)

/-- Reads a number. Without fraction or exponent and with its digits fitting 64 bits it is
an integer (`-0` and negatives below `-2^63` excepted). Otherwise the first digits that
fit a 64-bit significand are scaled by a power of ten in binary64 steps
(`Decimal.stepwiseBits`); digits of the whole part beyond it count in the exponent,
those of the fraction are dropped. The exponent is a signed 32-bit integer: adding the
written one saturates, and one too long to fit reads as a zero when it is negative or
the significand is zero. A value beyond the finite range makes the text unreadable. -/
def readNumber (cs : List Char) : Option (Json × List Char) :=
  let (negative, cs) := match cs with
    | '-' :: r => (true, r)
    | r => (false, r)
  let whole := cs.takeWhile Char.isDigit
  let cs := cs.dropWhile Char.isDigit
  if whole.isEmpty || (whole.length > 1 && whole.head? = some '0') then none
  else
    let (s, e0, long) := wholeDigits whole 0
    let (fraction, cs, hasFraction) : List Char × List Char × Bool := match cs with
      | '.' :: r => (r.takeWhile Char.isDigit, r.dropWhile Char.isDigit, true)
      | r => ([], r, false)
    if hasFraction && fraction.isEmpty then none
    else
      let (s, e1) := fractionDigits fraction s e0
      let scaled (e : Int) (rest : List Char) : Option (Json × List Char) :=
        (Decimal.stepwiseBits s e).map fun b => (.float (signedFloat negative b), rest)
      match cs with
      | c :: r =>
        if c = 'e' || c = 'E' then
          let (positiveExp, r) : Bool × List Char := match r with
            | '+' :: r' => (true, r')
            | '-' :: r' => (false, r')
            | r' => (true, r')
          let ds := r.takeWhile Char.isDigit
          let rest := r.dropWhile Char.isDigit
          if ds.isEmpty then none
          else
            match exponentDigits ds 0 with
            | some x =>
              let e := e1 + (if positiveExp then (x : Int) else -(x : Int))
              scaled (max i32Min (min i32Max e)) rest
            | none =>
              if s ≠ 0 && positiveExp then none
              else some (.float (signedFloat negative 0), rest)
        else if hasFraction || long then scaled e1 cs
        else some (integerNumber negative s, cs)
      | [] => if hasFraction || long then scaled e1 [] else some (integerNumber negative s, [])
where
  /-- An integer of at most 64 bits: `-0` and negatives below `-2^63` are floats. -/
  integerNumber (negative : Bool) (s : Nat) : Json :=
    if !negative then .int s
    else if s = 0 then .float (signedFloat true 0)
    else if s ≤ Nat.pow 2 63 then .int (-(s : Int))
    else .float (signedFloat true (Decimal.nearestBits false s 0))

mutual

/-- Reads one value after optional whitespace; `fuel` bounds the nesting and the number
of items, and the length of the text is always enough. -/
def readValue : Nat → List Char → Option (Json × List Char)
  | 0, _ => none
  | fuel + 1, cs =>
    match cs.dropWhile isBlank with
    | 'n' :: 'u' :: 'l' :: 'l' :: rest => some (.null, rest)
    | 't' :: 'r' :: 'u' :: 'e' :: rest => some (.bool true, rest)
    | 'f' :: 'a' :: 'l' :: 's' :: 'e' :: rest => some (.bool false, rest)
    | '"' :: rest => (readString rest []).map fun (s, r) => (.str s, r)
    | '[' :: rest =>
      match rest.dropWhile isBlank with
      | ']' :: rest' => some (.arr [], rest')
      | _ => (readItems fuel rest []).map fun (items, r) => (.arr items, r)
    | '{' :: rest =>
      match rest.dropWhile isBlank with
      | '}' :: rest' => some (.obj [], rest')
      | _ => (readMembers fuel rest []).map fun (fields, r) => (.obj fields, r)
    | other => readNumber other

/-- Reads the items of an array up to its closing bracket. -/
def readItems : Nat → List Char → List Json → Option (List Json × List Char)
  | 0, _, _ => none
  | fuel + 1, cs, acc =>
    match readValue fuel cs with
    | none => none
    | some (v, rest) =>
      match rest.dropWhile isBlank with
      | ',' :: rest' => readItems fuel rest' (v :: acc)
      | ']' :: rest' => some ((v :: acc).reverse, rest')
      | _ => none

/-- Reads the members of an object up to its closing brace. -/
def readMembers : Nat → List Char → List (String × Json) →
    Option (List (String × Json) × List Char)
  | 0, _, _ => none
  | fuel + 1, cs, acc =>
    match cs.dropWhile isBlank with
    | '"' :: rest =>
      match readString rest [] with
      | none => none
      | some (key, rest) =>
        match rest.dropWhile isBlank with
        | ':' :: rest =>
          match readValue fuel rest with
          | none => none
          | some (v, rest) =>
            match rest.dropWhile isBlank with
            | ',' :: rest' => readMembers fuel rest' ((key, v) :: acc)
            | '}' :: rest' => some (((key, v) :: acc).reverse, rest')
            | _ => none
        | _ => none
    | _ => none

end

/-- Reads a whole text as one JSON value, with only whitespace around it. -/
def parse (s : String) : Option Json :=
  let cs := s.toList
  match readValue (cs.length + 1) cs with
  | some (v, rest) => if (rest.dropWhile isBlank).isEmpty then some v else none
  | none => none

end ScimQuery.Json
