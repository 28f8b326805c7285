import ScimQuery.Decimal.Nearest

/-! # Texts of binary64 values

A format writes the shortest digits of a value either positionally or with an exponent.
The choice, a trailing `.0` on integral values, the sign of a positive exponent, the tie
rule and the words for NaN and the infinities are the fields of `FloatFormat`. Four
formats are used: SQL literals and value texts, plain texts of filter literals, debug
texts of bound parameters, and JSON numbers.
-/

namespace ScimQuery.Decimal

/-- What a printer sees of a binary64 value. -/
inductive Reading where
  | nan
  | infinite (negative : Bool)
  | finite (negative : Bool) (value : Scientific)
deriving Repr

/-- Reads a value as its sign and its shortest digits. -/
def Reading.of (x : Float) (tie : Tie) : Reading :=
  let b := x.toBits
  let negative := b >>> 63 = 1
  if bitsNonFinite b then
    (if b &&& 0xFFFFFFFFFFFFF = 0 then .infinite negative else .nan)
  else .finite negative ((Binary.ofBits b).shortest tie)

/-- How a format lays out the digits of a value. Writing the value as `0.d₁d₂… · 10^p`,
it is positional when `p` is above `lowestPoint` and at most `highestPoint`, where a
missing bound does not restrict; otherwise it has an exponent `p - 1`. -/
structure FloatFormat where
  tie : Tie
  lowestPoint : Option Int
  highestPoint : Option Int
  /-- integral values written positionally end in `.0` -/
  pointZero : Bool
  /-- a non-negative exponent is written with `+` -/
  plusExponent : Bool
  nanText : String
  infinityText : String
  negInfinityText : String

/-- `n` zeros. -/
def zeros (n : Nat) : String := String.ofList (List.replicate n '0')

/-- Digits with the point after the first `p` of them, padded with zeros on either side. -/
def positional (digits : String) (p : Int) (pointZero : Bool) : String :=
  let n := digits.length
  if p ≤ 0 then "0." ++ zeros (-p).toNat ++ digits
  else if p.toNat < n then
    String.ofList (digits.toList.take p.toNat) ++ "." ++ String.ofList (digits.toList.drop p.toNat)
  else digits ++ zeros (p.toNat - n) ++ (if pointZero then ".0" else "")

/-- Digits as `d.ddd` followed by the exponent. -/
def withExponent (digits : String) (exponent : Int) (plus : Bool) : String :=
  let mantissa := match digits.toList with
    | [] => "0"
    | [d] => String.singleton d
    | d :: rest => String.singleton d ++ "." ++ String.ofList rest
  let sign := if exponent < 0 then "-" else if plus then "+" else ""
  mantissa ++ "e" ++ sign ++ toString exponent.natAbs

/-- The text of a value in a format. Zero is always positional. -/
def FloatFormat.text (f : FloatFormat) (x : Float) : String :=
  match Reading.of x f.tie with
  | .nan => f.nanText
  | .infinite negative => if negative then f.negInfinityText else f.infinityText
  | .finite negative d =>
    let sign := if negative then "-" else ""
    let digits := toString d.digits
    let p : Int := (digits.length : Int) + d.exp
    let above := match f.lowestPoint with | some lo => lo < p | none => true
    let below := match f.highestPoint with | some hi => p ≤ hi | none => true
    if d.digits = 0 || (above && below) then sign ++ positional digits p f.pointZero
    else sign ++ withExponent digits (p - 1) f.plusExponent

/-- SQL float literals and the text of a float value: positional from `0.00001` up to
sixteen integral digits, integral values end in `.0`, ties go to even. -/
def FloatFormat.sql : FloatFormat :=
  ⟨.toEven, some (-5), some 16, true, false, "NaN", "inf", "-inf"⟩

/-- The plain text of a number, never with an exponent and without a trailing `.0`;
ties go up. -/
def FloatFormat.plain : FloatFormat :=
  ⟨.up, none, none, false, false, "NaN", "inf", "-inf"⟩

/-- The debug text of a number: positional from `0.0001` below `1e16`, integral values
end in `.0`, ties go up. -/
def FloatFormat.debug : FloatFormat :=
  ⟨.up, some (-4), some 16, true, false, "NaN", "inf", "-inf"⟩

/-- A JSON number: as the SQL text, with `+` on a non-negative exponent. -/
def FloatFormat.json : FloatFormat :=
  ⟨.toEven, some (-5), some 16, true, true, "null", "null", "null"⟩

end ScimQuery.Decimal
