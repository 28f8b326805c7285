import ScimQuery.Decimal.Shortest

/-! # The binary64 value nearest to a decimal

Reading a decimal `n · 10^e` takes the binary64 value nearest to it, and of two equally
near the one with an even significand. Values beyond the largest finite one become an
infinity; values below half the least subnormal become zero. The rounding is done once,
on the exact quotient, so no intermediate width can round twice.
-/

namespace ScimQuery.Decimal

/-- The bits of an infinity of the given sign. -/
def infinityBits (negative : Bool) : UInt64 :=
  if negative then 0xFFF0000000000000 else 0x7FF0000000000000

/-- Divides and rounds to the nearest natural number, a tie going to the even one. -/
def roundHalfEven (num den : Nat) : Nat :=
  let quot := num / den
  let rem := num % den
  if 2 * rem > den || (2 * rem = den && quot % 2 = 1) then quot + 1 else quot

/-- The bits of the magnitude nearest to `num / den`, for `num > 0` and `den > 0`. -/
def nearestRatioBits (num den : Nat) : UInt64 :=
  let b : Int := (Nat.log2 num : Int) - (Nat.log2 den : Int)
  -- the binary exponent of the leading bit: `2^e2 ≤ num / den < 2^(e2 + 1)`
  let e2 : Int := if num * Nat.pow 2 (-b).toNat ≥ den * Nat.pow 2 b.toNat then b else b - 1
  let q : Int := max (e2 - 52) (-1074)
  let m := roundHalfEven (num * Nat.pow 2 (-q).toNat) (den * Nat.pow 2 q.toNat)
  let (m, q) := if m = Nat.pow 2 53 then (Nat.pow 2 52, q + 1) else (m, q)
  if q > 971 then infinityBits false
  else if m < Nat.pow 2 52 then UInt64.ofNat m
  else UInt64.ofNat ((q + 1075).toNat * Nat.pow 2 52 + (m - Nat.pow 2 52))

/-- The bits of the binary64 value nearest to `±n · 10^e`. Far out of range the result is
settled from the number of digits alone, so that no huge power is ever formed. -/
def nearestBits (negative : Bool) (n : Nat) (e : Int) : UInt64 :=
  let sign : UInt64 := if negative then 0x8000000000000000 else 0
  let size : Int := (digitCount n : Int) + e
  if n = 0 || size < -326 then sign
  else if size > 310 then infinityBits negative
  else
    let magnitude := nearestRatioBits (n * Nat.pow 10 e.toNat) (Nat.pow 10 (-e).toNat)
    if magnitude = infinityBits false then infinityBits negative else magnitude ||| sign

/-- The binary64 value nearest to `±n · 10^e`. -/
def nearest (negative : Bool) (n : Nat) (e : Int) : Float :=
  Float.ofBits (nearestBits negative n e)

/-- The binary64 value nearest to an integer. -/
def ofInt (i : Int) : Float := nearest (i < 0) i.natAbs 0

/-- Whether the bits are those of a NaN or an infinity. -/
def bitsNonFinite (b : UInt64) : Bool := (b >>> 52) &&& 0x7FF = 0x7FF

/-- Whether a value is neither NaN nor an infinity. -/
def isFinite (x : Float) : Bool := !bitsNonFinite x.toBits

/-- Whether a value is NaN. -/
def isNaN (x : Float) : Bool :=
  bitsNonFinite x.toBits && (x.toBits &&& 0xFFFFFFFFFFFFF) != 0

/-- Whether the sign bit is set, as for `-0.0`. -/
def signBit (x : Float) : Bool := x.toBits >>> 63 = 1

/-- The exact value of a finite value as an integer, when it is one. -/
def toInt? (x : Float) : Option Int :=
  if bitsNonFinite x.toBits then none
  else
    let v := Binary.ofBits x.toBits
    let magnitude : Option Nat :=
      if v.q ≥ 0 then some (v.m * Nat.pow 2 v.q.toNat)
      else if v.m % Nat.pow 2 (-v.q).toNat = 0 then some (v.m / Nat.pow 2 (-v.q).toNat) else none
    magnitude.map fun n => if signBit x then -(n : Int) else n

end ScimQuery.Decimal
