/-! # Shortest decimal digits of a binary64 value

A finite binary64 value `m · 2^q` stands for every real that rounds to it: the reals
between the halfway points to its two neighbours, the ends included exactly when `m` is
even. The digits printed for it are the fewest that land in that interval. Of the two
decimals of that length that surround the value, the nearer is taken, and an exact tie
goes as the format says. Everything is decided in exact `Nat` arithmetic.
-/

namespace ScimQuery.Decimal

/-- A finite non-negative binary64 magnitude `m · 2^q`. -/
structure Binary where
  m : Nat
  q : Int
  /-- The gap to the value below is half the gap to the value above. -/
  narrowBelow : Bool
deriving Repr

/-- The magnitude of a finite value read off its bits; the sign bit is not looked at. -/
def Binary.ofBits (b : UInt64) : Binary :=
  let e := ((b >>> 52) &&& 0x7FF).toNat
  let f := (b &&& 0xFFFFFFFFFFFFF).toNat
  if e = 0 then ⟨f, -1074, false⟩ else ⟨Nat.pow 2 52 + f, (e : Int) - 1075, f = 0 && e > 1⟩

/-- The number `digits · 10^exp`. -/
structure Scientific where
  digits : Nat
  exp : Int
deriving DecidableEq, Repr

/-- How an exact tie between two candidates of the same length is broken. -/
inductive Tie where
  /-- the candidate with an even last digit -/
  | toEven
  /-- the candidate of larger magnitude -/
  | up
deriving DecidableEq, Repr

/-- Compares `a · 10^i` with `n · 2^j` exactly. -/
def cmpScaled (a : Nat) (i : Int) (n : Nat) (j : Int) : Ordering :=
  compare (a * Nat.pow 10 i.toNat * Nat.pow 2 (-j).toNat) (n * Nat.pow 2 j.toNat * Nat.pow 10 (-i).toNat)

/-- A decimal reads back as `x` when it lies in the interval of reals that round to `x`.
The ends are `(4m - 2) · 2^(q-2)` (or `4m - 1` below a power of two) and `(4m + 2) · 2^(q-2)`. -/
def Binary.readsBack (x : Binary) (d : Scientific) : Bool :=
  let lower := if x.narrowBelow then 4 * x.m - 1 else 4 * x.m - 2
  let upper := 4 * x.m + 2
  let closed := x.m % 2 = 0
  let aboveLower := cmpScaled d.digits d.exp lower (x.q - 2)
  let belowUpper := cmpScaled d.digits d.exp upper (x.q - 2)
  (aboveLower = .gt || (closed && aboveLower = .eq)) &&
    (belowUpper = .lt || (closed && belowUpper = .eq))

/-- Whether `10^k ≤ m · 2^q`. -/
def Binary.atLeastPow10 (x : Binary) (k : Int) : Bool :=
  cmpScaled 1 k x.m x.q != .gt

/-- The least `k` with `m · 2^q < 10^k`, for `m > 0`. The estimate from the binary
logarithm is the true value or one below it; exact comparisons settle which. -/
def Binary.scale (x : Binary) : Int :=
  let e2 : Int := (Nat.log2 x.m : Int) + x.q
  let est : Int := e2 * 78913 / 262144 + 1
  let k := if x.atLeastPow10 est then (if x.atLeastPow10 (est + 1) then est + 2 else est + 1)
    else est
  if x.atLeastPow10 (k - 1) then k else if x.atLeastPow10 (k - 2) then k - 1 else k - 2

/-- `⌊m · 2^q / 10^e⌋`, the neighbour of `x` below it on the grid `10^e`. -/
def Binary.gridBelow (x : Binary) (e : Int) : Nat :=
  x.m * Nat.pow 2 x.q.toNat * Nat.pow 10 (-e).toNat / (Nat.pow 2 (-x.q).toNat * Nat.pow 10 e.toNat)

/-- The candidate of the grid `10^e`: one of the two neighbours of `x` on it that reads
back, the nearer if both do, and a tie broken by `tie`. -/
def Binary.onGrid (x : Binary) (tie : Tie) (e : Int) : Option Scientific :=
  let a := x.gridBelow e
  let lower : Scientific := ⟨a, e⟩
  let upper : Scientific := ⟨a + 1, e⟩
  match x.readsBack lower, x.readsBack upper with
  | true, true =>
    -- the midpoint of the two against the value itself
    match cmpScaled (2 * a + 1) e (2 * x.m) x.q with
    | .gt => some lower
    | .lt => some upper
    | .eq =>
      match tie with
      | .toEven => if a % 2 = 0 then some lower else some upper
      | .up => some upper
  | true, false => some lower
  | false, true => some upper
  | false, false => none

/-- Moves trailing zeros of the digits into the exponent. -/
def Scientific.strip (d : Scientific) : Scientific :=
  if h : d.digits ≠ 0 ∧ d.digits % 10 = 0 then
    Scientific.strip ⟨d.digits / 10, d.exp + 1⟩
  else d
termination_by d.digits
decreasing_by exact Nat.div_lt_self (Nat.pos_of_ne_zero h.1) (by decide)

/-- The exact decimal value of `m · 2^q`, as `m · 5^(-q) · 10^q` when `q < 0`. -/
def Binary.exact (x : Binary) : Scientific :=
  if x.q < 0 then ⟨x.m * Nat.pow 5 (-x.q).toNat, x.q⟩ else ⟨x.m * Nat.pow 2 x.q.toNat, 0⟩

/-- The shortest decimal that reads back as `x`, trailing zeros stripped. Zero is `0 · 10^0`.
Seventeen digits always suffice; the exact value stands behind the search all the same. -/
def Binary.shortest (x : Binary) (tie : Tie) : Scientific :=
  if x.m = 0 then ⟨0, 0⟩
  else
    let k := x.scale
    match (List.range 17).findSome? (fun (n : Nat) => x.onGrid tie (k - ((n : Int) + 1))) with
    | some d => d.strip
    | none => x.exact.strip

/-- The number of decimal digits of `n`, with `0` counted as one digit. -/
def digitCount (n : Nat) : Nat := (Nat.toDigits 10 n).length

end ScimQuery.Decimal
