import Mathlib.Algebra.Order.Field.Power
import Mathlib.Tactic.FieldSimp
import Mathlib.Tactic.Linarith
import Mathlib.Tactic.NormNum
import Mathlib.Tactic.Positivity
import Mathlib.Tactic.Ring
import Podkeeper.Decimal.Shortest

/-!
Rounding to doubles.

The magnitude of a double is an exact rational, and so is what is rounded to it. Rounding succeeds
up to half a unit above the greatest double, and moves a magnitude by half a unit of the result at
most.
-/

namespace Podkeeper.Double

/-- The magnitude of a double. -/
def value (x : Double) : ℚ := x.significand * 2 ^ x.exponent

theorem value_nonneg (x : Double) : 0 ≤ x.value := by
  unfold value
  positivity

theorem natPow_toNat (b : ℕ) {e : Int} (nonneg : 0 ≤ e) :
    ((Nat.pow b e.toNat : ℕ) : ℚ) = b ^ e := by
  rw [Nat.pow_eq, Nat.cast_pow, ← zpow_natCast, Int.toNat_of_nonneg nonneg]

/-- The ratio of a double is its magnitude. -/
theorem ratio_spec (x : Double) :
    0 < x.ratio.2 ∧ (x.ratio.1 : ℚ) / x.ratio.2 = x.value := by
  rw [ratio, value]
  split
  · rename_i nonneg
    refine ⟨Nat.one_pos, ?_⟩
    push_cast [natPow_toNat 2 nonneg]
    simp
  · rename_i negative
    have below : 0 ≤ -x.exponent := by omega
    refine ⟨Nat.pow_pos (by decide), ?_⟩
    dsimp only
    rw [natPow_toNat 2 below, zpow_neg, div_inv_eq_mul, Nat.cast_ofNat]

section

variable {num den : ℕ}

theorem inUnits_spec (num : ℕ) (e : Int) (positive : 0 < den) :
    0 < (inUnits num den e).2 ∧
      ((inUnits num den e).1 : ℚ) / (inUnits num den e).2 = num / den / 2 ^ e := by
  have two (k : ℕ) : 0 < Nat.pow 2 k := Nat.pow_pos (by decide)
  rw [inUnits]
  split
  · rename_i nonneg
    refine ⟨Nat.mul_pos positive (two _), ?_⟩
    push_cast [natPow_toNat 2 nonneg]
    rw [div_div]
  · rename_i negative
    have below : 0 ≤ -e := by omega
    refine ⟨positive, ?_⟩
    push_cast [natPow_toNat 2 below]
    rw [zpow_neg]
    field_simp

/-- A natural number whose double is within the divisor of twice the dividend. -/
theorem abs_sub_div_le {k : ℕ} (positive : 0 < den) (low : 2 * num ≤ 2 * (den * k) + den)
    (high : 2 * (den * k) ≤ 2 * num + den) : |(k : ℚ) - num / den| ≤ 1 / 2 := by
  have divisor : (0 : ℚ) < den := by exact_mod_cast positive
  have low' : (2 * num : ℚ) ≤ 2 * (den * k) + den := by exact_mod_cast low
  have high' : (2 * (den * k) : ℚ) ≤ 2 * num + den := by exact_mod_cast high
  have split : (k : ℚ) - num / den = (den * k - num) / den := by field_simp
  rw [split, abs_div, abs_of_pos divisor, div_le_iff₀ divisor, abs_le]
  constructor <;> linarith

/-- The rounded quotient is within half of the quotient. -/
theorem abs_roundDiv_sub_le (num : ℕ) (positive : 0 < den) :
    |(roundDiv num den : ℚ) - num / den| ≤ 1 / 2 := by
  have division := Nat.div_add_mod num den
  have below := Nat.mod_lt num positive
  have next : den * (num / den + 1) = den * (num / den) + den := Nat.mul_succ _ _
  rw [roundDiv]
  split
  · exact abs_sub_div_le positive (by omega) (by omega)
  · split
    · exact abs_sub_div_le positive (by omega) (by omega)
    · split
      · exact abs_sub_div_le positive (by omega) (by omega)
      · exact abs_sub_div_le positive (by omega) (by omega)

/-! ### Exponents -/

/-- Of two positive numbers the quotient of the leading bits gives that of the numbers within a
factor of two. -/
theorem quotient_log2 (filled : num ≠ 0) (positive : 0 < den) :
    (2 : ℚ) ^ ((num.log2 : ℤ) - den.log2 - 1) < num / den ∧
      (num : ℚ) / den < 2 ^ ((num.log2 : ℤ) - den.log2 + 1) := by
  have divisor : (0 : ℚ) < den := by exact_mod_cast positive
  have numLow : (2 : ℚ) ^ num.log2 ≤ num := by exact_mod_cast Nat.log2_self_le filled
  have numHigh : (num : ℚ) < 2 ^ (num.log2 + 1) := by exact_mod_cast Nat.lt_log2_self
  have denLow : (2 : ℚ) ^ den.log2 ≤ den := by
    exact_mod_cast Nat.log2_self_le (Nat.ne_of_gt positive)
  have denHigh : (den : ℚ) < 2 ^ (den.log2 + 1) := by exact_mod_cast Nat.lt_log2_self
  constructor
  · rw [lt_div_iff₀ divisor]
    calc (2 : ℚ) ^ ((num.log2 : ℤ) - den.log2 - 1) * den
        < 2 ^ ((num.log2 : ℤ) - den.log2 - 1) * 2 ^ (den.log2 + 1) := by gcongr
      _ = 2 ^ num.log2 := by
          rw [← zpow_natCast, ← zpow_natCast, ← zpow_add₀ two_ne_zero]
          congr 1
          push_cast
          ring
      _ ≤ num := numLow
  · rw [div_lt_iff₀ divisor]
    calc (num : ℚ) < 2 ^ (num.log2 + 1) := numHigh
      _ = 2 ^ ((num.log2 : ℤ) - den.log2 + 1) * 2 ^ den.log2 := by
          rw [← zpow_natCast, ← zpow_natCast, ← zpow_add₀ two_ne_zero]
          congr 1
          push_cast
          ring
      _ ≤ 2 ^ ((num.log2 : ℤ) - den.log2 + 1) * den := by gcongr

/-- The exponent at which a quotient has 53 bits, however small that is. -/
def exactExponent (num den : ℕ) : Int :=
  let guess : Int := num.log2 - den.log2 - 52
  let units := inUnits num den guess
  if units.1 / units.2 < leastFull then guess - 1 else guess

theorem exactExponent_spec (filled : num ≠ 0) (positive : 0 < den) :
    (2 : ℚ) ^ 52 ≤ num / den / 2 ^ exactExponent num den ∧
      (num : ℚ) / den / 2 ^ exactExponent num den < 2 ^ 53 := by
  obtain ⟨low, high⟩ := quotient_log2 filled positive
  rw [exactExponent]
  generalize guessed : (num.log2 : Int) - den.log2 - 52 = guess
  obtain ⟨unit, quotient⟩ := inUnits_spec num guess positive
  have scale : (0 : ℚ) < 2 ^ guess := by positivity
  have low' : (2 : ℚ) ^ 51 < num / den / 2 ^ guess := by
    have sum : ((51 : ℕ) : ℤ) + guess = num.log2 - den.log2 - 1 := by omega
    rw [lt_div_iff₀ scale, ← zpow_natCast, ← zpow_add₀ two_ne_zero, sum]
    exact low
  have high' : (num : ℚ) / den / 2 ^ guess < 2 ^ 53 := by
    have sum : ((53 : ℕ) : ℤ) + guess = num.log2 - den.log2 + 1 := by omega
    rw [div_lt_iff₀ scale, ← zpow_natCast, ← zpow_add₀ two_ne_zero, sum]
    exact high
  have unit' : (0 : ℚ) < (inUnits num den guess).2 := by exact_mod_cast unit
  have short : (inUnits num den guess).1 / (inUnits num den guess).2 < leastFull ↔
      (num : ℚ) / den / 2 ^ guess < 2 ^ 52 := by
    rw [Nat.div_lt_iff_lt_mul unit, ← quotient, div_lt_iff₀ unit', leastFull]
    norm_num
    exact_mod_cast Iff.rfl
  split
  · rename_i below
    have half : (num : ℚ) / den / 2 ^ (guess - 1) = 2 * (num / den / 2 ^ guess) := by
      rw [zpow_sub_one₀ two_ne_zero]
      field_simp
    have below' := short.1 below
    rw [half]
    constructor <;> linarith
  · rename_i above
    exact ⟨not_lt.1 fun below => above (short.2 below), high'⟩

/-- In units of its exponent a quotient has at most 53 bits, and all of them unless the exponent is
the least one. -/
theorem exponentOf_spec (filled : num ≠ 0) (positive : 0 < den) :
    minExponent ≤ exponentOf num den ∧ (num : ℚ) / den / 2 ^ exponentOf num den < 2 ^ 53 ∧
      ((2 : ℚ) ^ 52 ≤ num / den / 2 ^ exponentOf num den ∨ exponentOf num den = minExponent) := by
  obtain ⟨low, high⟩ := exactExponent_spec filled positive
  have same : exponentOf num den = max (exactExponent num den) minExponent := rfl
  rw [same]
  rcases le_total minExponent (exactExponent num den) with normal | tiny
  · rw [max_eq_left normal]
    exact ⟨normal, high, .inl low⟩
  · rw [max_eq_right tiny]
    refine ⟨le_refl _, lt_of_le_of_lt ?_ high, .inr rfl⟩
    gcongr
    norm_num

/-! ### Rounding -/

/-- What is half a unit above the greatest double, and from where on there is no double. -/
def overflow : ℚ := (2 ^ 53 - 1 / 2) * 2 ^ maxExponent

section

variable {t v : ℚ} {m : ℕ} {e : Int}

/-- Half a unit is a small part of a magnitude of 53 bits. -/
theorem abs_sub_le_max (units : v = t * 2 ^ e) (near : |(m : ℚ) - t| ≤ 1 / 2)
    (full : 2 ^ 52 ≤ t ∨ e = minExponent) :
    |(m : ℚ) * 2 ^ e - v| ≤ max (v / 2 ^ 53) (2 ^ minExponent / 2) := by
  have scale : (0 : ℚ) < 2 ^ e := by positivity
  have moved : |(m : ℚ) * 2 ^ e - v| ≤ 2 ^ e / 2 := by
    rw [units, ← sub_mul, abs_mul, abs_of_pos scale]
    calc |(m : ℚ) - t| * 2 ^ e ≤ 1 / 2 * 2 ^ e := by gcongr
      _ = 2 ^ e / 2 := by ring
  rcases full with full | tiny
  · refine le_max_of_le_left (moved.trans ?_)
    calc (2 : ℚ) ^ e / 2 = 2 ^ 52 * 2 ^ e / 2 ^ 53 := by ring
      _ ≤ t * 2 ^ e / 2 ^ 53 := by gcongr
      _ = v / 2 ^ 53 := by rw [units]
  · rw [← tiny]
    exact le_max_of_le_right moved

/-- A magnitude below the overflow has an exponent of a double. -/
theorem exponent_le (units : v = t * 2 ^ e) (full : 2 ^ 52 ≤ t ∨ e = minExponent)
    (below : v < overflow) : e ≤ maxExponent := by
  rcases full with full | tiny
  · by_contra beyond
    have up : maxExponent + 1 ≤ e := by omega
    have scale : (2 : ℚ) * 2 ^ maxExponent ≤ 2 ^ e := by
      calc (2 : ℚ) * 2 ^ maxExponent = 2 ^ (maxExponent + 1) := by
            rw [zpow_add_one₀ two_ne_zero, mul_comm]
        _ ≤ 2 ^ e := zpow_le_zpow_right₀ one_le_two up
    have reached : overflow ≤ v := by
      have unit : (0 : ℚ) < 2 ^ maxExponent := by positivity
      calc overflow = (2 ^ 53 - 1 / 2) * 2 ^ maxExponent := rfl
        _ ≤ 2 ^ 52 * (2 * 2 ^ maxExponent) := by linarith
        _ ≤ t * 2 ^ e := by gcongr
        _ = v := units.symm
    exact absurd below (not_lt.2 reached)
  · exact tiny ▸ by decide

/-- The significand that rounds a magnitude makes a double with its exponent, or one bit with the
next exponent. -/
theorem ofParts?_rounded (negative : Bool) (units : v = t * 2 ^ e) (near : |(m : ℚ) - t| ≤ 1 / 2)
    (least : minExponent ≤ e) (short : t < 2 ^ 53) (full : 2 ^ 52 ≤ t ∨ e = minExponent)
    (below : v < overflow) :
    let parts := if m = 2 * leastFull then (leastFull, e + 1) else (m, e)
    ∃ y, ofParts? negative parts.1 parts.2 = some y ∧ y.value = m * 2 ^ e := by
  obtain ⟨low, high⟩ := abs_le.1 near
  have greatest := exponent_le units full below
  have bounded : m ≤ 2 * leastFull := by
    have : (m : ℚ) < (2 * leastFull : ℕ) + 1 := by
      rw [leastFull]
      push_cast
      linarith
    exact Nat.lt_succ_iff.1 (by exact_mod_cast this)
  by_cases carry : m = 2 * leastFull
  · have room : e ≠ maxExponent := by
      intro top
      have reached : overflow ≤ v := by
        have all : (2 : ℚ) ^ 53 - 1 / 2 ≤ t := by
          rw [carry, leastFull] at high
          push_cast at high
          linarith
        rw [units, top, overflow]
        gcongr
      exact absurd below (not_lt.2 reached)
    have fits : Fits leastFull (e + 1) := ⟨by decide, .inl (le_refl _), by omega, by omega⟩
    refine ⟨⟨negative, leastFull, e + 1, fits⟩, ?_, ?_⟩
    · simp only [if_pos carry, ofParts?, dif_pos fits]
    · rw [value, carry, zpow_add_one₀ two_ne_zero]
      push_cast
      ring
  · have fits : Fits m e := by
      refine ⟨by omega, ?_, least, greatest⟩
      rcases full with full | tiny
      · left
        have : (leastFull : ℚ) < m + 1 := by
          rw [leastFull]
          push_cast
          linarith
        exact Nat.lt_succ_iff.1 (by exact_mod_cast this)
      · exact .inr tiny
    exact ⟨⟨negative, m, e, fits⟩, by simp only [if_neg carry, ofParts?, dif_pos fits], rfl⟩

end

/-- A magnitude below the overflow is rounded to a double, and moves by half a unit at most: by
that of 53 bits, or by that of the least exponent. -/
theorem ofRatio_spec (negative : Bool) (positive : 0 < den) (below : (num : ℚ) / den < overflow) :
    ∃ y, ofRatio negative num den = some y ∧
      |y.value - (num : ℚ) / den| ≤ max ((num : ℚ) / den / 2 ^ 53) (2 ^ minExponent / 2) := by
  by_cases blank : num = 0
  · refine ⟨zero negative, by rw [ofRatio, if_pos blank], ?_⟩
    rw [value, zero, blank]
    simp
  obtain ⟨least, short, full⟩ := exponentOf_spec blank positive
  obtain ⟨unit, quotient⟩ := inUnits_spec num (exponentOf num den) positive
  have near := abs_roundDiv_sub_le (inUnits num den (exponentOf num den)).1 unit
  rw [quotient] at near
  have units : (num : ℚ) / den =
      (num : ℚ) / den / 2 ^ exponentOf num den * 2 ^ exponentOf num den := by
    field_simp
  obtain ⟨y, made, exact'⟩ := ofParts?_rounded negative units near least short full below
  refine ⟨y, by rw [ofRatio, if_neg blank]; exact made, ?_⟩
  rw [exact']
  exact abs_sub_le_max units near full

/-- The greatest relative error of a rounding to 53 bits. -/
def relativeError : ℚ := 1 / 2 ^ 53

/-- A magnitude of one and more keeps its size up to the relative error. -/
theorem ofRatio_of_one_le (negative : Bool) (positive : 0 < den) (one : 1 ≤ (num : ℚ) / den)
    (below : (num : ℚ) / den < overflow) :
    ∃ y, ofRatio negative num den = some y ∧ (num : ℚ) / den * (1 - relativeError) ≤ y.value ∧
      y.value ≤ (num : ℚ) / den * (1 + relativeError) := by
  obtain ⟨y, made, near⟩ := ofRatio_spec negative positive below
  have tiny : (2 : ℚ) ^ minExponent / 2 ≤ 1 / 2 ^ 53 := by
    have least : (2 : ℚ) ^ minExponent ≤ 2 ^ (-52 : ℤ) := zpow_le_zpow_right₀ one_le_two (by decide)
    have ulp : (2 : ℚ) ^ (-52 : ℤ) = 2 / 2 ^ 53 := by norm_num
    rw [ulp] at least
    linarith
  have relative : (1 : ℚ) / 2 ^ 53 ≤ (num : ℚ) / den / 2 ^ 53 := by gcongr
  rw [max_eq_left (tiny.trans relative)] at near
  obtain ⟨low, high⟩ := abs_le.1 near
  refine ⟨y, made, ?_, ?_⟩
  · rw [relativeError]
    linarith
  · rw [relativeError]
    linarith

/-- No rounding more than doubles a magnitude and adds one. -/
theorem ofRatio_le (negative : Bool) (positive : 0 < den) (below : (num : ℚ) / den < overflow) :
    ∃ y, ofRatio negative num den = some y ∧ y.value ≤ 2 * ((num : ℚ) / den) + 1 := by
  obtain ⟨y, made, near⟩ := ofRatio_spec negative positive below
  have magnitude : (0 : ℚ) ≤ (num : ℚ) / den := by positivity
  have tiny : (2 : ℚ) ^ minExponent / 2 ≤ 1 := by
    have least : (2 : ℚ) ^ minExponent ≤ 2 ^ (0 : ℤ) := zpow_le_zpow_right₀ one_le_two (by decide)
    rw [zpow_zero] at least
    linarith
  have part : (num : ℚ) / den / 2 ^ 53 ≤ (num : ℚ) / den := div_le_self magnitude (by norm_num)
  have bound : max ((num : ℚ) / den / 2 ^ 53) (2 ^ minExponent / 2) ≤ (num : ℚ) / den + 1 :=
    max_le (by linarith) (by linarith)
  exact ⟨y, made, by linarith [(abs_le.1 (near.trans bound)).2]⟩

end

/-! ### Products and quotients -/

/-- The overflow is half of `(2 ^ 54 - 1) * 2 ^ 971`. -/
theorem natCast_lt_overflow {n : ℕ} : (n : ℚ) < overflow ↔ n * 2 < 18014398509481983 * 2 ^ 971 := by
  have unit : ((2 ^ 971 : ℕ) : ℚ) = 2 ^ maxExponent := by
    rw [Nat.cast_pow, ← zpow_natCast]
    rfl
  generalize (2 ^ 971 : ℕ) = u at *
  have double : overflow * 2 = ((18014398509481983 * u : ℕ) : ℚ) := by
    rw [overflow, ← unit]
    push_cast
    ring
  rw [← Nat.cast_lt (α := ℚ), ← double, Nat.cast_mul, Nat.cast_ofNat,
    mul_lt_mul_iff_of_pos_right two_pos]

theorem two_pow_lt_overflow : (2 : ℚ) ^ 70 < overflow := by
  have small : 2 ^ 70 * 2 < 18014398509481983 * 2 ^ 971 := by decide +kernel
  exact_mod_cast natCast_lt_overflow.2 small

/-- The powers of ten from `10^309` on are beyond all doubles. -/
theorem overflow_le {e : Int} (great : 309 ≤ e) : overflow ≤ 10 ^ e := by
  have beyond : overflow ≤ ((10 ^ 309 : ℕ) : ℚ) := by
    rw [← not_lt, natCast_lt_overflow]
    decide +kernel
  refine beyond.trans ?_
  rw [Nat.cast_pow, ← zpow_natCast]
  exact zpow_le_zpow_right₀ (by norm_num) great

theorem mul_isSome {x y : Double} (below : x.value * y.value < overflow) :
    ∃ z, x.mul y = some z := by
  obtain ⟨first, value⟩ := x.ratio_spec
  obtain ⟨second, value'⟩ := y.ratio_spec
  have product : x.value * y.value =
      ((x.ratio.1 * y.ratio.1 : ℕ) : ℚ) / (x.ratio.2 * y.ratio.2 : ℕ) := by
    rw [← value, ← value', div_mul_div_comm]
    push_cast
    rfl
  rw [product] at below
  obtain ⟨z, made, -⟩ := ofRatio_spec false (Nat.mul_pos first second) below
  exact ⟨z, made⟩

theorem div_le {x y : Double} (positive : 0 < y.value) (below : x.value / y.value < overflow) :
    ∃ z, x.div y = some z ∧ z.value ≤ 2 * (x.value / y.value) + 1 := by
  obtain ⟨first, value⟩ := x.ratio_spec
  obtain ⟨second, value'⟩ := y.ratio_spec
  have filled : 0 < y.ratio.1 := by
    refine Nat.pos_of_ne_zero fun blank => ?_
    rw [← value', blank, Nat.cast_zero, zero_div] at positive
    exact lt_irrefl _ positive
  have quotient : x.value / y.value =
      ((x.ratio.1 * y.ratio.2 : ℕ) : ℚ) / (x.ratio.2 * y.ratio.1 : ℕ) := by
    rw [← value, ← value', div_div_div_eq]
    push_cast
    rfl
  rw [quotient] at below ⊢
  exact ofRatio_le false (Nat.mul_pos first filled) below

/-- A natural number below the overflow is rounded with the relative error. -/
theorem ofRatio_natCast {n : ℕ} (filled : n ≠ 0) (below : n * 2 < 18014398509481983 * 2 ^ 971) :
    ∃ y, ofRatio false n 1 = some y ∧ n * (1 - relativeError) ≤ y.value ∧
      y.value ≤ n * (1 + relativeError) := by
  have same : (n : ℚ) / (1 : ℕ) = n := by rw [Nat.cast_one, div_one]
  have one : 1 ≤ (n : ℚ) / (1 : ℕ) := by
    rw [same]
    exact_mod_cast Nat.pos_of_ne_zero filled
  have room : (n : ℚ) / (1 : ℕ) < overflow := by
    rw [same]
    exact natCast_lt_overflow.2 below
  have made := ofRatio_of_one_le false Nat.one_pos one room
  rwa [same] at made

/-- The powers of ten up to `10^308` are doubles. -/
theorem pow10_spec {k : ℕ} (bounded : k ≤ 308) :
    ∃ p, pow10 k = some p ∧ 10 ^ k * (1 - relativeError) ≤ p.value ∧
      p.value ≤ 10 ^ k * (1 + relativeError) := by
  have fits : ∀ k < 309, Nat.pow 10 k * 2 < 18014398509481983 * 2 ^ 971 := by decide +kernel
  have made := ofRatio_natCast (Nat.ne_of_gt (Nat.one_le_pow k 10 (by decide)))
    (fits k (Nat.lt_succ_of_le bounded))
  rw [Nat.cast_pow, Nat.cast_ofNat] at made
  exact made

/-! ### Decimals -/

/-- A number of 64 bits is a double. -/
theorem ofNat_spec {s : ℕ} (short : s < 2 ^ 64) :
    ∃ x, ofNat s = some x ∧ x.value ≤ s * (1 + relativeError) ∧ (s = 0 → x.isZero = true) := by
  by_cases blank : s = 0
  · refine ⟨zero false, by rw [ofNat, ofRatio, if_pos blank], ?_, fun _ => rfl⟩
    rw [value, zero, blank]
    simp
  · have greatest : 2 ^ 64 * 2 < 18014398509481983 * 2 ^ 971 := by decide +kernel
    obtain ⟨x, made, -, high⟩ := ofRatio_natCast blank
      (lt_of_le_of_lt (Nat.mul_le_mul_right 2 short.le) greatest)
    exact ⟨x, made, high, fun zero => absurd zero blank⟩

/-- Dividing by ten and more leaves room for the rounding. -/
theorem div_pow10_isSome {x : Double} {k : ℕ} (small : x.value ≤ 2 ^ 65) (positive : 0 < k)
    (bounded : k ≤ 308) :
    ∃ p y, pow10 k = some p ∧ x.div p = some y ∧ y.value ≤ 2 ^ 65 := by
  have error : relativeError ≤ 1 / 2 := by
    rw [relativeError]
    norm_num
  obtain ⟨p, made, low, -⟩ := pow10_spec bounded
  have ten : (10 : ℚ) ≤ 10 ^ k := le_self_pow₀ (by norm_num) (Nat.ne_of_gt positive)
  have five : 5 ≤ p.value := by nlinarith
  have part : x.value / p.value ≤ 2 ^ 65 / 5 := by
    have := x.value_nonneg
    gcongr
  have below : x.value / p.value < overflow :=
    lt_of_le_of_lt (part.trans (by norm_num)) two_pow_lt_overflow
  obtain ⟨y, quotient, bound⟩ := div_le (by linarith) below
  exact ⟨p, y, made, quotient, by linarith⟩

/-- Dividing by powers of ten never fails. -/
theorem scaleDown_isSome (fuel : ℕ) {x : Double} {k : ℕ} (small : x.value ≤ 2 ^ 65)
    (positive : 0 < k) : ∃ y, scaleDown fuel x k = some y := by
  induction fuel generalizing x k with
  | zero => exact ⟨x, rfl⟩
  | succ fuel ih =>
      rw [scaleDown]
      split
      · rename_i bounded
        obtain ⟨p, y, made, quotient, -⟩ := div_pow10_isSome small positive bounded
        exact ⟨y, by rw [made]; exact quotient⟩
      · rename_i great
        split
        · exact ⟨x, rfl⟩
        · obtain ⟨p, y, made, quotient, bound⟩ := div_pow10_isSome small (by decide) (le_refl 308)
          obtain ⟨z, rest⟩ := ih bound (k := k - 308) (by omega)
          refine ⟨z, ?_⟩
          change (do scaleDown fuel (← x.div (← pow10 308)) (k - 308)) = _
          rw [made]
          change (do scaleDown fuel (← x.div p) (k - 308)) = _
          rw [quotient]
          exact rest

/-- The second step of reading a decimal, after its digits became a double. -/
def scaled (x : Double) (e : Int) : Option Double :=
  if e < 0 then scaleDown ((-e).toNat / 308 + 1) x (-e).toNat
  else if e ≤ 308 then do x.mul (← pow10 e.toNat)
  else if x.isZero then some x
  else none

theorem ofDecimal_eq (negative : Bool) (s : ℕ) (e : Int) :
    ofDecimal negative s e =
      (ofNat s).bind fun x => (scaled x e).bind fun y => some (y.withSign negative) := by
  rw [ofDecimal, Option.bind_eq_bind]
  refine congrArg (Option.bind _) (funext fun x => ?_)
  dsimp only
  rw [scaled]
  split
  · rfl
  · split
    · exact (Option.bind_assoc _ _ _).symm
    · split <;> rfl

theorem scaled_isSome {x : Double} {e : Int} (small : x.value ≤ 2 ^ 65)
    (room : 0 < e → x.isZero = true ∨
      e ≤ 308 ∧ x.value * (10 ^ e * (1 + relativeError)) < overflow) :
    ∃ y, scaled x e = some y := by
  have magnitude := x.value_nonneg
  rw [scaled]
  split
  · rename_i negative
    exact scaleDown_isSome _ small (by omega)
  · rename_i nonneg
    split
    · rename_i bounded
      obtain ⟨p, made, -, high⟩ := pow10_spec (k := e.toNat) (by omega)
      rw [← zpow_natCast, Int.toNat_of_nonneg (Int.not_lt.1 nonneg)] at high
      have product : x.value * p.value ≤ x.value * (10 ^ e * (1 + relativeError)) := by gcongr
      have below : x.value * p.value < overflow := by
        rcases Int.lt_or_eq_of_le (Int.not_lt.1 nonneg) with positive | zero
        · rcases room positive with zero | ⟨-, below⟩
          · have none : x.value = 0 := by
              rw [value, eq_of_beq zero]
              simp
            rw [none, zero_mul]
            exact lt_trans (by norm_num) two_pow_lt_overflow
          · exact lt_of_le_of_lt product below
        · rw [← zero, zpow_zero] at product
          refine lt_of_le_of_lt (product.trans ?_) two_pow_lt_overflow
          rw [relativeError]
          norm_num
          linarith
      obtain ⟨z, multiplied⟩ := mul_isSome below
      refine ⟨z, ?_⟩
      rw [made]
      exact multiplied
    · rename_i great
      rcases room (by omega) with zero | ⟨bounded, -⟩
      · exact ⟨x, if_pos zero⟩
      · exact absurd bounded great

/-- A decimal of 64 bits is a double if it has no positive power, or stays below the overflow when
both of its roundings go up. -/
theorem ofDecimal_isSome (negative : Bool) {s : ℕ} {e : Int} (short : s < 2 ^ 64)
    (below : 0 < e → (s : ℚ) * 10 ^ e * (1 + relativeError) ^ 2 < overflow) :
    ∃ y, ofDecimal negative s e = some y := by
  obtain ⟨x, made, high, zero⟩ := ofNat_spec short
  have error : 0 < relativeError ∧ relativeError ≤ 1 / 2 := by
    rw [relativeError]
    norm_num
  have small : x.value ≤ 2 ^ 65 := by
    have short' : (s : ℚ) < 2 ^ 64 := by exact_mod_cast short
    nlinarith
  obtain ⟨y, second⟩ : ∃ y, scaled x e = some y := by
    refine scaled_isSome small fun positive => ?_
    by_cases blank : s = 0
    · exact .inl (zero blank)
    · right
      have one : (1 : ℚ) ≤ s := by exact_mod_cast Nat.pos_of_ne_zero blank
      have scale : (0 : ℚ) < 10 ^ e := by positivity
      constructor
      · by_contra great
        have beyond : overflow ≤ 10 ^ e := overflow_le (by omega)
        have up : (10 : ℚ) ^ e ≤ s * 10 ^ e * (1 + relativeError) ^ 2 :=
          calc (10 : ℚ) ^ e = 1 * 10 ^ e * 1 ^ 2 := by ring
            _ ≤ s * 10 ^ e * (1 + relativeError) ^ 2 := by
              have := error.1
              gcongr
              linarith
        exact absurd (below positive) (not_lt.2 (beyond.trans up))
      · calc x.value * (10 ^ e * (1 + relativeError))
            ≤ s * (1 + relativeError) * (10 ^ e * (1 + relativeError)) := by
              have := error.1
              gcongr
          _ = s * 10 ^ e * (1 + relativeError) ^ 2 := by ring
          _ < overflow := below positive
  refine ⟨y.withSign negative, ?_⟩
  rw [ofDecimal_eq, made, Option.bind_some, second, Option.bind_some]

end Podkeeper.Double
