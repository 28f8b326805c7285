import ScimQuery.Decimal.Nearest

/-! # Decimals read by scaling in rounded steps

`nearest` rounds a decimal `s · 10^e` once. The two readers here scale a significand by
powers of ten and round after every step, so they can land one unit away from it:

* `stepwiseBits` works in binary64. `s` is rounded to binary64, then multiplied by the
  binary64 value of `10^e`, or divided by that of `10^-e`, in one rounded operation. An
  exponent below `-308` first divides by `10^308` as often as it takes, and a product
  beyond the largest finite value is no result.
* `extendedBits` works with a 64-bit significand and an exponent that does not run out.
  `s` is exact and is multiplied by `10^±100`, then `10^±10`, then `10^±1`, each factor
  and each product rounded to 64 significant bits. The result is rounded once to
  binary64, and one above the largest finite binary64 value is an infinity.

All operations are exact `Nat` arithmetic followed by one rounding, a tie going to the
even significand.
-/

namespace ScimQuery.Decimal

/-! ## Binary64 steps -/

/-- The bits of the binary64 value nearest to `n · 2^q`, for `n > 0`. -/
def dyadicBits (n : Nat) (q : Int) : UInt64 :=
  nearestRatioBits (n * Nat.pow 2 q.toNat) (Nat.pow 2 (-q).toNat)

/-- The rounded product of two non-negative finite values, given and returned as bits. -/
def mulBits (a b : UInt64) : UInt64 :=
  let x := Binary.ofBits a
  let y := Binary.ofBits b
  if x.m = 0 || y.m = 0 then 0 else dyadicBits (x.m * y.m) (x.q + y.q)

/-- The rounded quotient of a non-negative finite value by a positive finite one. -/
def divBits (a b : UInt64) : UInt64 :=
  let x := Binary.ofBits a
  let y := Binary.ofBits b
  let q := x.q - y.q
  if x.m = 0 then 0
  else nearestRatioBits (x.m * Nat.pow 2 q.toNat) (y.m * Nat.pow 2 (-q).toNat)

/-- The bits of the binary64 value nearest to `10^k`. -/
def pow10Bits (k : Nat) : UInt64 := nearestBits false 1 k

/-- Divides by `10^308` up to `k` times, stopping at zero. -/
def divideByPow308 : Nat → UInt64 → UInt64
  | 0, f => f
  | k + 1, f => if f = 0 then 0 else divideByPow308 k (divBits f (pow10Bits 308))

/-- The magnitude of `s · 10^e` scaled in binary64 steps; `none` when it passes the
largest finite value. -/
def stepwiseBits (s : Nat) (e : Int) : Option UInt64 :=
  let f := nearestBits false s 0
  if e > 308 then (if f = 0 then some 0 else none)
  else if e ≥ 0 then
    let r := mulBits f (pow10Bits e.toNat)
    if r = infinityBits false then none else some r
  else if e ≥ -308 then some (divBits f (pow10Bits (-e).toNat))
  else
    -- after `k` divisions by `10^308` the exponent is between `-308` and `-1`
    let k := (-e - 1).toNat / 308
    some (divBits (divideByPow308 k f) (pow10Bits (-e - 308 * (k : Int)).toNat))

/-! ## Steps with a 64-bit significand -/

/-- A positive value `m · 2^q`. -/
structure Extended where
  m : Nat
  q : Int
deriving Repr

/-- Rounds `n · 2^q`, for `n > 0`, to 64 significant bits. -/
def Extended.ofDyadic (n : Nat) (q : Int) : Extended :=
  let width := Nat.log2 n + 1
  if width ≤ 64 then ⟨n, q⟩
  else
    let shift := width - 64
    let m := roundHalfEven n (Nat.pow 2 shift)
    if m = Nat.pow 2 64 then ⟨Nat.pow 2 63, q + shift + 1⟩ else ⟨m, q + shift⟩

/-- Rounds `num / den`, for `num > 0` and `den > 0`, to 64 significant bits. -/
def Extended.ofRatio (num den : Nat) : Extended :=
  let b : Int := (Nat.log2 num : Int) - (Nat.log2 den : Int)
  -- the binary exponent of the leading bit: `2^e2 ≤ num / den < 2^(e2 + 1)`
  let e2 : Int := if num * Nat.pow 2 (-b).toNat ≥ den * Nat.pow 2 b.toNat then b else b - 1
  let q := e2 - 63
  let m := roundHalfEven (num * Nat.pow 2 (-q).toNat) (den * Nat.pow 2 q.toNat)
  if m = Nat.pow 2 64 then ⟨Nat.pow 2 63, q + 1⟩ else ⟨m, q⟩

/-- The rounded product. -/
def Extended.mul (x y : Extended) : Extended := Extended.ofDyadic (x.m * y.m) (x.q + y.q)

/-- The factor `10^k` or `10^-k`, rounded to 64 significant bits. -/
def Extended.pow10 (negative : Bool) (k : Nat) : Extended :=
  if negative then Extended.ofRatio 1 (Nat.pow 10 k) else Extended.ofDyadic (Nat.pow 10 k) 0

/-- Multiplies `n` times by the same factor. -/
def Extended.scale (factor : Extended) : Nat → Extended → Extended
  | 0, x => x
  | n + 1, x => Extended.scale factor n (x.mul factor)

/-- Whether a value is above the largest finite binary64 value `(2^53 - 1) · 2^971`. -/
def Extended.aboveMaxFinite (x : Extended) : Bool :=
  let d := x.q - 971
  x.m * Nat.pow 2 d.toNat > (Nat.pow 2 53 - 1) * Nat.pow 2 (-d).toNat

/-- The binary64 bits of a value: an infinity above the largest finite value, the
nearest value otherwise. -/
def Extended.toBits (x : Extended) : UInt64 :=
  if x.aboveMaxFinite then infinityBits false else dyadicBits x.m x.q

/-- The greatest 64-bit unsigned integer. -/
def word64Max : Nat := Nat.pow 2 64 - 1

/-- Moves factors of ten from a positive exponent into the significand while it stays
below `word64Max / 10`; twenty steps are always enough for `s > 0`. -/
def raiseSignificand : Nat → Nat → Int → Nat × Int
  | 0, s, e => (s, e)
  | fuel + 1, s, e =>
    if e > 0 ∧ s < word64Max / 10 then raiseSignificand fuel (s * 10) (e - 1) else (s, e)

/-- Moves trailing zeros of the significand into a negative exponent; twenty steps are
always enough for `0 < s < 2^64`. -/
def lowerSignificand : Nat → Nat → Int → Nat × Int
  | 0, s, e => (s, e)
  | fuel + 1, s, e =>
    if e < 0 ∧ s % 10 = 0 then lowerSignificand fuel (s / 10) (e + 1) else (s, e)

/-- The magnitude of `s · 10^e`, for `s < 2^64`, scaled in steps with a 64-bit
significand. The exponent is first brought towards zero without changing the value;
when it reaches zero the significand is rounded directly. -/
def extendedBits (s : Nat) (e : Int) : UInt64 :=
  if s = 0 then 0
  else
    let (s, e) := raiseSignificand 20 s e
    let (s, e) := lowerSignificand 20 s e
    if e = 0 then nearestBits false s 0
    else
      let k := e.natAbs
      let negative := e < 0
      let x : Extended := ⟨s, 0⟩
      let x := Extended.scale (Extended.pow10 negative 100) (k / 100) x
      let x := Extended.scale (Extended.pow10 negative 10) (k % 100 / 10) x
      let x := Extended.scale (Extended.pow10 negative 1) (k % 10) x
      x.toBits

end ScimQuery.Decimal
