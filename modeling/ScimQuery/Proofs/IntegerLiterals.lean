import Mathlib.Data.Nat.Digits.Defs
import Mathlib.Algebra.Order.Field.Power
import Mathlib.Tactic.FieldSimp
import Mathlib.Tactic.NormNum
import Mathlib.Tactic.Ring
import ScimQuery.Filter.Coerce

/-! # Integer literals

A literal compared with an integer attribute is an integer, a binary64 value or a text. A
finite binary64 value stands for the rational `±m · 2^q` of its bits, and `toInt?` finds it
exactly when that rational is an integer. A text stands for an integer when it is a decimal
numeral of it: an optional sign, then at least one ASCII digit, read positionally.

The literal is bound as the integer it stands for, within the 64-bit range, with one
exception: the binary64 value `2^63`, just above the range, is taken as `2^63 - 1`. The
bound value is then not the number written.
-/

namespace ScimQuery.Decimal

/-- The exact value of a finite binary64 value, `±m · 2^q`. -/
def exactValue (x : Float) : ℚ :=
  let v := Binary.ofBits x.toBits
  (if signBit x then -1 else 1) * ((v.m : ℚ) * 2 ^ v.q)

/-- A magnitude `m · 2^q` is a natural number `k` exactly when `toInt?` finds it: directly for
`q ≥ 0`, and when `2^(-q)` divides `m` otherwise. -/
theorem scaled_eq_natCast_iff (m : ℕ) (q : ℤ) (k : ℕ) :
    (if q ≥ 0 then some (m * Nat.pow 2 q.toNat)
      else if m % Nat.pow 2 (-q).toNat = 0 then some (m / Nat.pow 2 (-q).toNat) else none) =
        some k ↔ (m : ℚ) * 2 ^ q = k := by
  split_ifs with hq hdvd
  · obtain ⟨p, rfl⟩ := Int.eq_ofNat_of_zero_le hq
    simp only [Int.toNat_natCast, Nat.pow_eq, Option.some.injEq, zpow_natCast]
    norm_cast
  · obtain ⟨p, hp⟩ : ∃ p : ℕ, q = -(p : ℤ) := ⟨(-q).toNat, by omega⟩
    subst hp
    simp only [neg_neg, Int.toNat_natCast, Nat.pow_eq, Option.some.injEq, zpow_neg,
      zpow_natCast] at hdvd ⊢
    obtain ⟨r, rfl⟩ := Nat.dvd_of_mod_eq_zero hdvd
    rw [Nat.mul_div_cancel_left _ (by positivity)]
    push_cast
    field_simp
    norm_cast
  · obtain ⟨p, hp⟩ : ∃ p : ℕ, q = -(p : ℤ) := ⟨(-q).toNat, by omega⟩
    subst hp
    simp only [neg_neg, Int.toNat_natCast, Nat.pow_eq, zpow_neg, zpow_natCast,
      false_iff] at hdvd ⊢
    intro h
    apply hdvd
    have : (m : ℚ) = k * 2 ^ p := by
      field_simp at h
      linarith
    have : m = k * 2 ^ p := by exact_mod_cast this
    simp [this]

/-- `toInt?` gives the value of a finite binary64 value exactly when that value is an
integer. -/
theorem toInt?_eq_some_iff (x : Float) (n : ℤ) :
    toInt? x = some n ↔ isFinite x = true ∧ exactValue x = n := by
  unfold toInt? isFinite exactValue
  by_cases hnf : bitsNonFinite x.toBits = true
  · simp [hnf]
  · simp only [hnf, Bool.false_eq_true, if_false, Bool.not_false, true_and]
    set v := Binary.ofBits x.toBits
    have hpos : (0 : ℚ) ≤ (v.m : ℚ) * 2 ^ v.q := by positivity
    generalize hmag : (if v.q ≥ 0 then some (v.m * Nat.pow 2 v.q.toNat)
      else if v.m % Nat.pow 2 (-v.q).toNat = 0 then some (v.m / Nat.pow 2 (-v.q).toNat)
      else none) = mag
    cases mag with
    | none =>
      simp only [Option.bind_eq_bind, Option.bind_none, Option.map_none, reduceCtorEq, false_iff]
      intro h
      have hk : (v.m : ℚ) * 2 ^ v.q = (n.natAbs : ℚ) := by
        rw [Nat.cast_natAbs, Int.cast_abs, ← h, abs_mul, abs_of_nonneg hpos]
        split <;> simp
      rw [(scaled_eq_natCast_iff _ _ _).2 hk] at hmag
      cases hmag
    | some k =>
      rw [(scaled_eq_natCast_iff _ _ _).1 hmag]
      cases signBit x <;> simp <;> norm_cast

/-- The value of decimal digits, the most significant first. -/
def digitsNat (ds : List Char) : ℕ := Nat.ofDigits 10 (ds.reverse.map fun d => d.toNat - '0'.toNat)

/-- An optionally signed decimal numeral and its value: a sign `+`, `-` or none, then at
least one ASCII digit. -/
inductive IsNumeral : List Char → ℤ → Prop
  | unsigned {ds : List Char} : ds ≠ [] → (∀ d ∈ ds, d.isDigit) → IsNumeral ds (digitsNat ds)
  | plus {ds : List Char} : ds ≠ [] → (∀ d ∈ ds, d.isDigit) →
      IsNumeral ('+' :: ds) (digitsNat ds)
  | minus {ds : List Char} : ds ≠ [] → (∀ d ∈ ds, d.isDigit) →
      IsNumeral ('-' :: ds) (-(digitsNat ds : ℤ))

theorem digitsValue_eq_digitsNat (ds : List Char) : Json.digitsValue ds = digitsNat ds := by
  -- the fold reads the digits from the left: a prefix worth `a` scales by ten per digit after it
  suffices h : ∀ a, ds.foldl (fun n c => n * 10 + (c.toNat - '0'.toNat)) a =
      a * 10 ^ ds.length + digitsNat ds by simpa [Json.digitsValue] using h 0
  induction ds with
  | nil => simp [digitsNat]
  | cons d ds ih =>
    intro a
    rw [List.foldl_cons, ih, digitsNat, digitsNat, List.reverse_cons, List.map_append,
      Nat.ofDigits_append, List.length_map, List.length_reverse, List.length_cons]
    simp
    ring

theorem isNumeral_plus_iff {r : List Char} {n : ℤ} :
    IsNumeral ('+' :: r) n ↔ r ≠ [] ∧ (∀ d ∈ r, d.isDigit) ∧ n = digitsNat r := by
  constructor
  · intro h
    cases h with
    | unsigned _ hd => exact absurd (hd '+' List.mem_cons_self) (by decide)
    | plus hne hd => exact ⟨hne, hd, rfl⟩
  · rintro ⟨hne, hd, rfl⟩
    exact .plus hne hd

theorem isNumeral_minus_iff {r : List Char} {n : ℤ} :
    IsNumeral ('-' :: r) n ↔ r ≠ [] ∧ (∀ d ∈ r, d.isDigit) ∧ n = -(digitsNat r : ℤ) := by
  constructor
  · intro h
    cases h with
    | unsigned _ hd => exact absurd (hd '-' List.mem_cons_self) (by decide)
    | minus hne hd => exact ⟨hne, hd, rfl⟩
  · rintro ⟨hne, hd, rfl⟩
    exact .minus hne hd

theorem isNumeral_unsigned_iff {l : List Char} {n : ℤ} (hplus : ∀ r, l ≠ '+' :: r)
    (hminus : ∀ r, l ≠ '-' :: r) :
    IsNumeral l n ↔ l ≠ [] ∧ (∀ d ∈ l, d.isDigit) ∧ n = digitsNat l := by
  constructor
  · intro h
    cases h with
    | unsigned hne hd => exact ⟨hne, hd, rfl⟩
    | plus => exact absurd rfl (hplus _)
    | minus => exact absurd rfl (hminus _)
  · rintro ⟨hne, hd, rfl⟩
    exact .unsigned hne hd

/-- A signed 64-bit integer is read from a text exactly when the text is a numeral of it. -/
theorem parseInt64?_eq_some_iff (s : String) (n : ℤ) :
    parseInt64? s = some n ↔ IsNumeral s.toList n ∧ Json.i64Min ≤ n ∧ n ≤ Json.i64Max := by
  unfold parseInt64?
  split
  rename_i neg cs hsign
  refine (?digits : _ ↔ cs ≠ [] ∧ (∀ d ∈ cs, d.isDigit) ∧
    n = (if neg then -(digitsNat cs : ℤ) else digitsNat cs) ∧ Json.i64Min ≤ n ∧
      n ≤ Json.i64Max).trans ?sign
  case digits =>
    simp only [Bool.or_eq_true, List.isEmpty_iff, Bool.not_eq_eq_eq_not, Bool.not_true,
      List.all_eq_false, digitsValue_eq_digitsNat]
    generalize (if neg = true then -(digitsNat cs : ℤ) else digitsNat cs) = v
    split_ifs with h1 h2
    · simp only [false_iff, not_and]
      intro hne hd
      rcases h1 with h | ⟨d, hdm, hnd⟩
      · exact (hne h).elim
      · exact (hnd (hd d hdm)).elim
    · simp only [not_or, not_exists, not_and, Bool.not_eq_true, Bool.not_eq_false] at h1
      simp only [Option.some.injEq, ne_eq, h1.1, not_false_eq_true, true_and]
      constructor
      · rintro rfl
        exact ⟨fun d hd => by simpa using h1.2 d hd, rfl, h2⟩
      · rintro ⟨-, rfl, -⟩
        rfl
    · simp only [false_iff, not_and]
      rintro - - rfl
      exact fun hlo hhi => h2 ⟨hlo, hhi⟩
  case sign =>
    generalize s.toList = l at hsign
    split at hsign <;> obtain ⟨rfl, rfl⟩ := Prod.mk.inj hsign
    · simp [isNumeral_plus_iff, and_assoc]
    · simp [isNumeral_minus_iff, and_assoc]
    · rename_i hplus hminus
      simp [isNumeral_unsigned_iff (fun r h => hplus r h) (fun r h => hminus r h), and_assoc]

end ScimQuery.Decimal
namespace ScimQuery

open Decimal

/-- An integral binary64 value within the 64-bit range is taken as it is; the value `2^63`
just above it is taken as `2^63 - 1`. -/
theorem integralOf?_eq_some_iff (x : Float) (n : ℤ) :
    integralOf? x = some n ↔ isFinite x = true ∧
      (exactValue x = n ∧ Json.i64Min ≤ n ∧ n ≤ Json.i64Max ∨
        exactValue x = Json.i64Max + 1 ∧ n = Json.i64Max) := by
  unfold integralOf?
  cases h : toInt? x with
  | none =>
    simp only [reduceCtorEq, false_iff, not_and, not_or]
    intro hf
    constructor
    · intro hv _
      simpa [h] using (toInt?_eq_some_iff x n).2 ⟨hf, hv⟩
    · intro hv _
      have := (toInt?_eq_some_iff x (Json.i64Max + 1)).2 ⟨hf, by exact_mod_cast hv⟩
      simp [h] at this
  | some k =>
    obtain ⟨hf, hv⟩ := (toInt?_eq_some_iff x k).1 h
    simp only [hf, hv, true_and, Int.cast_inj]
    have : ((Json.i64Max + 1 : ℤ) : ℚ) = (Json.i64Max : ℚ) + 1 := by push_cast; rfl
    rw [← this, Int.cast_inj]
    split_ifs with hr <;> simp [Json.i64Min, Json.i64Max] at hr ⊢ <;> omega

/-- An integer literal is bound as it is, an integral number as `integralOf?` takes it and a
text as the numeral it is once trimmed; nothing else becomes an integer. -/
theorem coerceValue_integer_eq_ok_iff (v : FilterValue) (n : ℤ) :
    coerceValue .integer v = .ok (.int n) ↔
      v = .int n ∨ (∃ x, v = .float x ∧ integralOf? x = some n) ∨
        ∃ s, v = .string s ∧ Decimal.parseInt64? (Text.trim s) = some n := by
  cases v with
  | int k => simp [coerceValue, eq_comm]
  | float x =>
    simp only [coerceValue, reduceCtorEq, FilterValue.float.injEq, exists_eq_left', false_or]
    cases integralOf? x <;> simp
  | string s =>
    simp only [coerceValue, reduceCtorEq, FilterValue.string.injEq, exists_eq_left', false_or]
    cases Decimal.parseInt64? (Text.trim s) <;> simp
  | null | bool _ => simp [coerceValue]

theorem coerceValue_integer_eq_ok (v : FilterValue) {w : Sql.Value}
    (h : coerceValue .integer v = .ok w) : ∃ n, w = .int n := by
  cases v with
  | int k => exact ⟨k, by simpa [coerceValue] using h.symm⟩
  | float x =>
    simp only [coerceValue] at h
    split at h <;> cases h
    exact ⟨_, rfl⟩
  | string s =>
    simp only [coerceValue] at h
    split at h <;> cases h
    exact ⟨_, rfl⟩
  | null | bool _ => simp [coerceValue] at h

theorem mapError_eq_ok {ε ε' α : Type} {f : ε → ε'} {x : Except ε α} {a : α} :
    x.mapError f = .ok a ↔ x = .ok a := by
  cases x <;> simp [Except.mapError]

theorem mapError_eq_error {ε ε' α : Type} {f : ε → ε'} {x : Except ε α} {e : ε'} :
    x.mapError f = .error e ↔ ∃ p, x = .error p ∧ e = f p := by
  cases x <;> simp [Except.mapError, eq_comm]

/-- Integer coercion, exactly. A literal compared with an integer attribute is bound as the
integer `n` exactly when it is `n`; or it is a finite binary64 value equal to `n` within the
64-bit range, or equal to `2^63`, which is bound as `2^63 - 1`; or it is a text that, trimmed,
is an optionally signed decimal numeral of `n` within the 64-bit range. It is bound as an
integer or not at all, and a refusal is an invalid filter value for the literal. -/
theorem coerce_integer_exact {a : AttributeLocation} (ha : a.kind = .integer) (path : String)
    (v : FilterValue) :
    (∀ n, coerce a path v = .ok (.int n) ↔
      v = .int n ∨
        (∃ x, v = .float x ∧ isFinite x = true ∧
          (exactValue x = n ∧ Json.i64Min ≤ n ∧ n ≤ Json.i64Max ∨
            exactValue x = Json.i64Max + 1 ∧ n = Json.i64Max)) ∨
        ∃ s, v = .string s ∧ IsNumeral (Text.trim s).toList n ∧ Json.i64Min ≤ n ∧
          n ≤ Json.i64Max) ∧
    (∀ w, coerce a path v = .ok w → ∃ n, w = .int n) ∧
    (∀ e, coerce a path v = .error e → ∃ problem, e = .invalidFilterValue path v problem) := by
  refine ⟨fun n => ?_, fun w h => ?_, fun e h => ?_⟩
  · rw [coerce, mapError_eq_ok, ha, coerceValue_integer_eq_ok_iff]
    simp only [integralOf?_eq_some_iff, parseInt64?_eq_some_iff]
  · rw [coerce, mapError_eq_ok, ha] at h
    exact coerceValue_integer_eq_ok v h
  · obtain ⟨p, -, rfl⟩ := mapError_eq_error.1 h
    exact ⟨p, rfl⟩

/-- The text ` -12 ` compared with an integer attribute. -/
theorem size_coerce_integer_exact :
    let a : AttributeLocation := { (default : AttributeLocation) with kind := .integer }
    let v : FilterValue := .string " -12 "
    a.kind = .integer ∧
      (∀ n, coerce a "size" v = .ok (.int n) ↔
        v = .int n ∨
          (∃ x, v = .float x ∧ isFinite x = true ∧
            (exactValue x = n ∧ Json.i64Min ≤ n ∧ n ≤ Json.i64Max ∨
              exactValue x = Json.i64Max + 1 ∧ n = Json.i64Max)) ∨
          ∃ s, v = .string s ∧ IsNumeral (Text.trim s).toList n ∧ Json.i64Min ≤ n ∧
            n ≤ Json.i64Max) ∧
      (∀ w, coerce a "size" v = .ok w → ∃ n, w = .int n) ∧
      (∀ e, coerce a "size" v = .error e → ∃ problem, e = .invalidFilterValue "size" v problem) :=
  ⟨rfl, coerce_integer_exact rfl "size" (.string " -12 ")⟩

theorem toBits_twoPow63 : (Float.ofBits 0x43E0000000000000).toBits = 0x43E0000000000000 := by
  decide

/-- The binary64 value `2^63`, one above the greatest 64-bit integer, is bound as that
integer: an integer comparison binds a number other than the one written. -/
theorem coerce_integer_two_pow_63 :
    exactValue (Float.ofBits 0x43E0000000000000) = 2 ^ 63 ∧
      coerce { (default : AttributeLocation) with kind := .integer } "size"
        (.float (Float.ofBits 0x43E0000000000000)) = .ok (.int (2 ^ 63 - 1)) := by
  have hs : signBit (Float.ofBits 0x43E0000000000000) = false := by decide
  have hm : (Binary.ofBits 0x43E0000000000000).m = 2 ^ 52 := by decide
  have hq : (Binary.ofBits 0x43E0000000000000).q = 11 := by decide
  refine ⟨?_, rfl⟩
  rw [exactValue, hs, toBits_twoPow63, hm, hq]
  norm_num

end ScimQuery
