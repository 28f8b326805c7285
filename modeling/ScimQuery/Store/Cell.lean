import ScimQuery.Sql.Value
import ScimQuery.Decimal.Parse
import ScimQuery.Decimal.Scaled

/-! # Cells

A cell of a stored table holds NULL, a signed 64-bit integer, a binary64 number or a text.
Cells are ordered NULL first, then numbers by value (an integer and a float compare
exactly), then texts by their code points. A float is written as text with fifteen
significant digits, positionally when its decimal exponent is from -4 to 14 and with a
two-digit exponent otherwise, and always with a digit after the point. A text reads as a
number when, apart from surrounding blanks, it is a decimal integer or real literal. Its
value keeps the digits that fit a 64-bit significand and is scaled in rounded steps, so
it can differ from the nearest binary64 value in the last place. As a truth value a text
counts by the number it starts with.
-/

namespace ScimQuery.Store

/-- A stored value. -/
inductive Cell where
  | null
  | int (n : Int)
  | real (x : Float)
  | text (s : String)
deriving Inhabited

namespace Cell

/-- The cell a bound value is stored as: booleans are the integers 0 and 1, and NaN is
NULL. -/
def ofValue : Sql.Value → Cell
  | .null => .null
  | .bool b => .int (if b then 1 else 0)
  | .int n => .int n
  | .float x => if Decimal.isNaN x then .null else .real x
  | .text s => .text s

/-- The value a cell is read back as. -/
def toValue : Cell → Sql.Value
  | .null => .null
  | .int n => .int n
  | .real x => .float x
  | .text s => .text s

/-- Whether a cell is NULL. -/
def isNull : Cell → Bool
  | .null => true
  | _ => false

end Cell

/-- Rounds `digits · 10^exp` to `n` significant digits, a half going up; the result's
digits have exactly `n` digits unless the value is zero. -/
def roundSignificant (n : Nat) (d : Decimal.Scientific) : Decimal.Scientific :=
  let len := Decimal.digitCount d.digits
  if len ≤ n then ⟨d.digits * Nat.pow 10 (n - len), d.exp - ((n - len : Nat) : Int)⟩
  else
    let drop := len - n
    let q := d.digits / Nat.pow 10 drop
    let r := d.digits % Nat.pow 10 drop
    let q := if 2 * r ≥ Nat.pow 10 drop then q + 1 else q
    if Decimal.digitCount q > n then ⟨q / 10, d.exp + (drop : Int) + 1⟩
    else ⟨q, d.exp + (drop : Int)⟩

/-- Drops trailing zeros of a digit list. -/
def stripZeros (ds : List Char) : List Char := (ds.reverse.dropWhile (· = '0')).reverse

/-- The text of a float: fifteen significant digits, a point always followed by a digit,
and an exponent of at least two digits outside the positional range. -/
def realText (x : Float) : String :=
  match Decimal.Reading.of x .up with
  | .nan => "NaN"
  | .infinite negative => if negative then "-Inf" else "Inf"
  | .finite negative v =>
    let sign := if negative then "-" else ""
    if v.digits = 0 then "0.0"
    else
      let b := Decimal.Binary.ofBits x.toBits
      let r := roundSignificant 15 b.exact
      let ds := (toString r.digits).toList
      -- the value is `d₁.d₂… · 10^e`
      let e : Int := r.exp + 14
      let body :=
        if e < -4 || e ≥ 15 then
          let rest := stripZeros (ds.drop 1)
          let mantissa := String.ofList (ds.take 1) ++ "." ++
            (if rest.isEmpty then "0" else String.ofList rest)
          let a := e.natAbs
          mantissa ++ "e" ++ (if e < 0 then "-" else "+") ++ (if a < 10 then "0" else "") ++ toString a
        else if e ≥ 0 then
          let k := e.toNat + 1
          let frac := stripZeros (ds.drop k)
          String.ofList (ds.take k) ++ "." ++ (if frac.isEmpty then "0" else String.ofList frac)
        else "0." ++ String.ofList (List.replicate ((-e).toNat - 1) '0') ++ String.ofList (stripZeros ds)
      sign ++ body

namespace Cell

/-- The text of a cell, as text functions and text comparisons see it; NULL has none. -/
def text? : Cell → Option String
  | .null => none
  | .int n => some (toString n)
  | .real x => some (realText x)
  | .text s => some s

end Cell

/-- Whether a character is blank around a number. -/
def isNumberBlank (c : Char) : Bool :=
  c = ' ' || c = '\t' || c = '\n' || c = '\r' || c = '\x0b' || c = '\x0c'

/-- Whether a text is a real literal: digits with an optional point and at least one
digit, then an optional exponent. -/
def isRealLiteral (cs : List Char) : Bool :=
  let cs := match cs with
    | '+' :: r | '-' :: r => r
    | r => r
  let whole := cs.takeWhile Char.isDigit
  let cs := cs.dropWhile Char.isDigit
  let (fraction, cs) := match cs with
    | '.' :: r => (r.takeWhile Char.isDigit, r.dropWhile Char.isDigit)
    | r => ([], r)
  if whole.isEmpty && fraction.isEmpty then false
  else
    match cs with
    | [] => true
    | e :: r =>
      (e = 'e' || e = 'E') &&
        (let r := match r with
          | '+' :: t | '-' :: t => t
          | t => t
         !r.isEmpty && r.all Char.isDigit)

/-- The exact integer a float equals, when it lies strictly between the least and the
greatest signed 64-bit integer. -/
def exactInt? (x : Float) : Option Int :=
  match Decimal.toInt? x with
  | some n => if Json.i64Min < n ∧ n < Json.i64Max then some n else none
  | none => none

/-- A digit goes into a number's significand only while the significand is below
`(2^64 - 10) / 10`. -/
def significandCap : Nat := 1844674407370955160

/-- Takes one digit of a number into its significand `s` and exponent `d`: while `s` is
below the cap the digit is appended (a digit of the fraction then lowers `d`); after
that a digit of the whole part raises `d` and one of the fraction is dropped. -/
def takeDigit (fraction : Bool) (acc : Nat × Int) (c : Char) : Nat × Int :=
  let (s, d) := acc
  if s < significandCap then (s * 10 + (c.toNat - '0'.toNat), if fraction then d - 1 else d)
  else (s, if fraction then d else d + 1)

/-- The number at the start of a text: an optional sign, digits with an optional point,
then an exponent whose value counts up to 10000. The digits kept in the significand are
scaled by the exponent in steps with a 64-bit significand (`Decimal.extendedBits`).
What follows is ignored, and a text without digits reads as zero. -/
def readReal (cs : List Char) : Float :=
  let (negative, cs) := match cs with
    | '-' :: r => (true, r)
    | '+' :: r => (false, r)
    | r => (false, r)
  let acc := (cs.takeWhile Char.isDigit).foldl (takeDigit false) (0, 0)
  let cs := cs.dropWhile Char.isDigit
  let (acc, cs) := match cs with
    | '.' :: r => ((r.takeWhile Char.isDigit).foldl (takeDigit true) acc, r.dropWhile Char.isDigit)
    | r => (acc, r)
  let exponent : Int := match cs with
    | e :: r =>
      if e = 'e' || e = 'E' then
        let (sign, r) : Int × List Char := match r with
          | '+' :: t => (1, t)
          | '-' :: t => (-1, t)
          | t => (1, t)
        sign * ((r.takeWhile Char.isDigit).foldl
          (fun n c => if n < 10000 then n * 10 + (c.toNat - '0'.toNat) else 10000) 0 : Nat)
      else 0
    | [] => 0
  let bits := Decimal.extendedBits acc.1 (exponent + acc.2)
  Float.ofBits (if negative then bits ||| 0x8000000000000000 else bits)

/-- The number a text reads as: an integer when it is an integer literal that fits 64
bits, otherwise a float; `tryInt` also turns an integral float into an integer. -/
def numberOfText? (s : String) (tryInt : Bool) : Option Cell :=
  let cs := ((s.toList.dropWhile isNumberBlank).reverse.dropWhile isNumberBlank).reverse
  if !isRealLiteral cs then none
  else
    match Decimal.parseInt64? (String.ofList cs) with
    | some n => some (.int n)
    | none =>
      let x := readReal cs
      if tryInt then
        match exactInt? x with
        | some n => some (.int n)
        | none => some (.real x)
      else some (.real x)

/-- The number a text starts with, after blanks (`readReal`). -/
def leadingNumber (s : String) : Float := readReal (s.toList.dropWhile isNumberBlank)

/-- Compares an integer with a finite or infinite float exactly. -/
def compareIntReal (n : Int) (x : Float) : Ordering :=
  let b := x.toBits
  if Decimal.bitsNonFinite b then (if Decimal.signBit x then .gt else .lt)
  else
    let v := Decimal.Binary.ofBits b
    let m : Int := if Decimal.signBit x then -(v.m : Int) else v.m
    if v.q ≥ 0 then compare n (m * Nat.pow 2 v.q.toNat)
    else compare (n * Nat.pow 2 (-v.q).toNat) m

/-- Compares two floats. -/
def compareReal (x y : Float) : Ordering :=
  if x < y then .lt else if x == y then .eq else .gt

namespace Cell

/-- The rank of a cell's kind in the order: NULL, numbers, texts. -/
def rank : Cell → Nat
  | .null => 0
  | .int _ | .real _ => 1
  | .text _ => 2

/-- The order of cells. -/
def compare : Cell → Cell → Ordering
  | .null, .null => .eq
  | .int a, .int b => Ord.compare a b
  | .int a, .real y => compareIntReal a y
  | .real x, .int b => (compareIntReal b x).swap
  | .real x, .real y => compareReal x y
  | .text a, .text b => Ord.compare a b
  | a, b => Ord.compare a.rank b.rank

/-- Whether two cells are equal in the order. -/
def same (a b : Cell) : Bool := a.compare b == .eq

end Cell

end ScimQuery.Store
