import ScimQuery.Decimal.Nearest
import ScimQuery.Json.Parse
import ScimQuery.Text.Blank

/-! # Reading numbers from text

A decimal number is an optional sign, then digits with an optional point (at least one
digit on either side of it), then an optional exponent `e` or `E` with an optional sign
and at least one digit; or, in any case, `inf`, `infinity` or `nan` after an optional
sign. It is read as the nearest binary64 value, so that a number out of range reads as an
infinity. An integer is an optional sign followed by at least one ASCII digit, and must
fit a signed 64-bit integer.
-/

namespace ScimQuery.Decimal

/-- Reads a decimal number. -/
def parseFloat? (s : String) : Option Float :=
  let (negative, cs) := match s.toList with
    | '+' :: r => (false, r)
    | '-' :: r => (true, r)
    | r => (false, r)
  let word := String.ofList (cs.map Text.asciiLower)
  if word = "inf" || word = "infinity" then
    some (Float.ofBits (infinityBits negative))
  else if word = "nan" then some (0.0 / 0.0)
  else
    let whole := cs.takeWhile Char.isDigit
    let cs := cs.dropWhile Char.isDigit
    let (fraction, cs) := match cs with
      | '.' :: r => (r.takeWhile Char.isDigit, r.dropWhile Char.isDigit)
      | r => ([], r)
    if whole.isEmpty && fraction.isEmpty then none
    else
      let exponent : Option Int := match cs with
        | [] => some 0
        | e :: r =>
          if e = 'e' || e = 'E' then
            let (sign, r) : Int × List Char := match r with
              | '+' :: r' => (1, r')
              | '-' :: r' => (-1, r')
              | r' => (1, r')
            if !r.isEmpty && r.all Char.isDigit then some (sign * Json.digitsValue r) else none
          else none
      exponent.map fun e =>
        nearest negative (Json.digitsValue (whole ++ fraction)) (e - fraction.length)

/-- Reads a signed 64-bit integer. -/
def parseInt64? (s : String) : Option Int :=
  let (negative, cs) := match s.toList with
    | '+' :: r => (false, r)
    | '-' :: r => (true, r)
    | r => (false, r)
  if cs.isEmpty || !cs.all Char.isDigit then none
  else
    let n : Int := Json.digitsValue cs
    let v := if negative then -n else n
    if Json.i64Min ≤ v ∧ v ≤ Json.i64Max then some v else none

end ScimQuery.Decimal
