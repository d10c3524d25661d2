import Podkeeper.Proofs.Decimal.Rounding
import Podkeeper.Proofs.Decimal.Texts

/-!
The text of a double can be read.

A double is written as its shortest decimal, which is at most half a unit above it, and reading
that decimal rounds twice. Close to the greatest double the two roundings could exceed it together;
they do not, but only the three greatest magnitudes are so close, and for these the text is read
outright (`Double.number_numeral`).
-/

namespace Podkeeper

open Json

namespace Double

/-! ### Shortest decimals -/

/-- A power is a ratio of naturals, one of which is one. -/
theorem zpow_mul_scale (b : ℕ) (k : Int) (positive : 0 < b) :
    (b : ℚ) ^ k * (if k < 0 then Nat.pow b (-k).toNat else 1 : ℕ) =
      (if 0 ≤ k then Nat.pow b k.toNat else 1 : ℕ) := by
  have base : (b : ℚ) ≠ 0 := by exact_mod_cast Nat.ne_of_gt positive
  rcases lt_or_ge k 0 with negative | nonneg
  · rw [if_pos negative, if_neg (Int.not_le.2 negative), natPow_toNat b (by omega),
      ← zpow_add₀ base]
    simp
  · rw [if_neg (Int.not_lt.2 nonneg), if_pos nonneg, natPow_toNat b nonneg]
    simp

/-- Comparing the scaled numbers compares the magnitudes. -/
theorem le_of_compareQuarters {digits quarters : ℕ} {exponent e : Int}
    (order : compareQuarters digits exponent quarters e ≠ .gt) :
    (digits : ℚ) * 10 ^ exponent ≤ quarters * 2 ^ (e - 2) := by
  have two : (if 2 ≤ e then Nat.pow 2 (e - 2).toNat else 1) =
        (if 0 ≤ e - 2 then Nat.pow 2 (e - 2).toNat else 1) ∧
      (if e < 2 then Nat.pow 2 (2 - e).toNat else 1) =
        (if e - 2 < 0 then Nat.pow 2 (-(e - 2)).toNat else 1) := by
    have up : 2 ≤ e ↔ 0 ≤ e - 2 := by omega
    have down : e < 2 ↔ e - 2 < 0 := by omega
    simp only [up, down, neg_sub, and_self]
  rw [compareQuarters, two.1, two.2, ne_eq, Nat.compare_eq_gt, Nat.not_lt] at order
  have scaled := (Nat.cast_le (α := ℚ)).2 order
  simp only [Nat.cast_mul] at scaled
  rw [← zpow_mul_scale 10 exponent (by decide), ← zpow_mul_scale 2 (e - 2) (by decide)] at scaled
  have tens : 0 < (if exponent < 0 then Nat.pow 10 (-exponent).toNat else 1) := by
    split
    · exact Nat.pow_pos (by decide)
    · decide
  have twos : 0 < (if e - 2 < 0 then Nat.pow 2 (-(e - 2)).toNat else 1) := by
    split
    · exact Nat.pow_pos (by decide)
    · decide
  generalize (if exponent < 0 then Nat.pow 10 (-exponent).toNat else 1) = c at *
  generalize (if e - 2 < 0 then Nat.pow 2 (-(e - 2)).toNat else 1) = d at *
  have scale : (0 : ℚ) < c * d := by exact_mod_cast Nat.mul_pos tens twos
  refine le_of_mul_le_mul_right ?_ scale
  calc (digits : ℚ) * 10 ^ exponent * (c * d) = digits * (10 ^ exponent * c) * d := by ring
    _ ≤ quarters * c * (2 ^ (e - 2) * d) := scaled
    _ = quarters * 2 ^ (e - 2) * (c * d) := by ring

/-- The decimal of a double is at most half a unit above it. -/
theorem shortest_le (x : Double) :
    (x.shortest.digits : ℚ) * 10 ^ x.shortest.exponent ≤
      (x.significand + 1 / 2) * 2 ^ x.exponent := by
  have held {d : Decimal} (holds : x.holds d = true) :
      (d.digits : ℚ) * 10 ^ d.exponent ≤ (x.significand + 1 / 2) * 2 ^ x.exponent := by
    have order : compareQuarters d.digits d.exponent (4 * x.significand + 2) x.exponent ≠ .gt := by
      intro above
      simp only [Double.holds, interval, above] at holds
      revert holds
      split <;> simp_all
    have bound := le_of_compareQuarters order
    rw [zpow_sub₀ two_ne_zero] at bound
    push_cast at bound
    linarith
  have shortened := shortened_shortest x
  cases shape : x.shortest with
  | mk digits exponent =>
      rw [shape] at shortened
      cases shortened with
      | none =>
          rw [Nat.cast_zero, zero_mul]
          positivity
      | same _ holds => exact held holds
      | ten exponent holds =>
          have bound := held holds
          rw [zpow_add_one₀ (by norm_num)]
          push_cast at bound ⊢
          linarith

/-- Away from the greatest magnitudes two roundings up do not overflow. -/
theorem rounded_twice_lt {x : Double}
    (small : x.exponent < maxExponent ∨ x.significand + 4 ≤ 2 * leastFull) :
    (x.significand + 1 / 2) * 2 ^ x.exponent * (1 + relativeError) ^ 2 < overflow := by
  have unit : (0 : ℚ) < 2 ^ maxExponent := by positivity
  have positive : (0 : ℚ) < 2 ^ x.exponent := by positivity
  have exponent : (2 : ℚ) ^ x.exponent ≤ 2 ^ maxExponent :=
    zpow_le_zpow_right₀ one_le_two x.fits.2.2.2
  have half : x.exponent < maxExponent → (2 : ℚ) ^ x.exponent ≤ 2 ^ maxExponent / 2 := by
    intro below
    rw [le_div_iff₀ two_pos, ← zpow_add_one₀ two_ne_zero]
    exact zpow_le_zpow_right₀ one_le_two below
  have significand : (x.significand : ℚ) + 1 ≤ 2 ^ 53 := by
    have := x.fits.1
    rw [leastFull] at this
    exact_mod_cast this
  rw [overflow, relativeError]
  generalize (2 : ℚ) ^ maxExponent = u at *
  generalize (2 : ℚ) ^ x.exponent = v at *
  rcases small with small | small
  · have half := half small
    calc ((x.significand : ℚ) + 1 / 2) * v * (1 + 1 / 2 ^ 53) ^ 2
        ≤ (2 ^ 53 - 1 / 2) * (u / 2) * (1 + 1 / 2 ^ 53) ^ 2 := by
          gcongr
          linarith
      _ = (2 ^ 53 - 1 / 2) * u * ((1 + 1 / 2 ^ 53) ^ 2 / 2) := by ring
      _ < (2 ^ 53 - 1 / 2) * u := by
          refine mul_lt_of_lt_one_right (mul_pos (by norm_num) unit) ?_
          norm_num
  · have significand : (x.significand : ℚ) + 4 ≤ 2 ^ 53 := by
      rw [leastFull] at small
      exact_mod_cast small
    calc ((x.significand : ℚ) + 1 / 2) * v * (1 + 1 / 2 ^ 53) ^ 2
        ≤ (2 ^ 53 - 7 / 2) * u * (1 + 1 / 2 ^ 53) ^ 2 := by
          gcongr
          linarith
      _ = (2 ^ 53 - 7 / 2) * (1 + 1 / 2 ^ 53) ^ 2 * u := by ring
      _ < (2 ^ 53 - 1 / 2) * u := by
          refine mul_lt_mul_of_pos_right ?_ unit
          norm_num

end Double

/-! ### Numerals of doubles -/

namespace Json.Numeral

open Double

/-- The number of a decimal without a positive power, or away from the overflow. -/
theorem double_isReal (negative : Bool) {s : ℕ} {e : Int} (short : s ≤ 18446744073709551615)
    (below : 0 < e → (s : ℚ) * 10 ^ e * (1 + relativeError) ^ 2 < overflow) :
    ∃ y, double negative s e = .ok (.real y) := by
  obtain ⟨y, made⟩ := ofDecimal_isSome negative (Nat.lt_succ_of_le short) below
  exact ⟨y, by rw [double, made]⟩

section

variable {negative : Bool} {whole fraction : List Nat}

variable (fraction) in
/-- Few digits before the point are all taken, and with those of the fraction they make a number of
64 bits. -/
theorem taken_spec (decimal : ∀ d ∈ whole, d < 10) (short : whole.length ≤ 16) :
    ∃ s unread, takeDigits 0 whole = (natOf whole, 0) ∧
      takeDigits (natOf whole) fraction = (s, unread) ∧ s ≤ 18446744073709551615 ∧
      unread ≤ fraction.length ∧ s * 10 ^ unread ≤ natOf (whole ++ fraction) := by
  have few : natOf whole ≤ 18446744073709551615 := by
    have below := natOf_lt decimal
    have bounded : 10 ^ whole.length ≤ 10 ^ 16 := Nat.pow_le_pow_right (by decide) short
    omega
  have value : 0 * 10 ^ whole.length + natOf whole = natOf whole := by
    rw [Nat.zero_mul, Nat.zero_add]
  have taken : takeDigits 0 whole = (natOf whole, 0) := by
    rw [takeDigits_of_le (value.le.trans few), value]
  obtain ⟨small, left, bound⟩ := takeDigits_spec few fraction
  rw [← natOf_append] at bound
  exact ⟨_, _, taken, rfl, small, left, bound⟩

/-- A numeral with a fraction and no exponent. -/
theorem number_of_fraction (decimal : ∀ d ∈ whole, d < 10) (short : whole.length ≤ 16)
    (filled : fraction ≠ []) :
    ∃ y, number ⟨negative, whole, fraction, none⟩ = .ok (.real y) := by
  obtain ⟨s, unread, taken, more, small, -, -⟩ := taken_spec fraction decimal short
  have read : number ⟨negative, whole, fraction, none⟩ =
      double negative s (0 - (fraction.length - unread : Nat)) := by
    obtain ⟨d, ds, rfl⟩ := List.exists_cons_of_ne_nil filled
    simp only [number, taken, more]
    rfl
  rw [read]
  exact double_isReal negative small (by omega)

/-- A numeral with an exponent that is negative, or keeps it away from the overflow. -/
theorem number_of_power {p : Power} (decimal : ∀ d ∈ whole, d < 10) (short : whole.length ≤ 16)
    (room : p.negative = false → natOf p.digits ≤ 308 ∧
      (natOf (whole ++ fraction) : ℚ) * 10 ^ ((natOf p.digits : ℤ) - fraction.length) *
        (1 + relativeError) ^ 2 < overflow) :
    ∃ y, number ⟨negative, whole, fraction, some p⟩ = .ok (.real y) := by
  obtain ⟨s, unread, taken, more, small, left, bound⟩ := taken_spec fraction decimal short
  have read : number ⟨negative, whole, fraction, some p⟩ =
      if maxPower < natOf p.digits then
        if s ≠ 0 ∧ !p.negative then .error .numberRange else .ok (.real (.zero negative))
      else double negative s (clampPower
        (if p.negative then 0 - (fraction.length - unread : Nat) - natOf p.digits
          else 0 - (fraction.length - unread : Nat) + natOf p.digits)) := by
    cases fraction <;> simp only [number, taken, more] <;> rfl
  rw [read]
  cases sign : p.negative with
  | true =>
      split
      · exact ⟨.zero negative, by simp⟩
      · refine double_isReal negative small fun positive => absurd positive ?_
        simp only [clampPower, if_true]
        omega
  | false =>
      obtain ⟨bounded, below⟩ := room sign
      rw [if_neg (Nat.not_lt.2 (bounded.trans (by decide)))]
      refine double_isReal negative small fun positive => ?_
      have exponent : clampPower (if false = true then
            0 - (fraction.length - unread : Nat) - natOf p.digits
          else 0 - (fraction.length - unread : Nat) + natOf p.digits) =
          unread + ((natOf p.digits : ℤ) - fraction.length) := by
        rw [clampPower, maxPower, if_neg Bool.false_ne_true] at positive ⊢
        omega
      -- the digits that were left out only make the number smaller
      have digits : (s : ℚ) * 10 ^ unread ≤ natOf (whole ++ fraction) := by exact_mod_cast bound
      rw [exponent, zpow_add₀ (by norm_num), zpow_natCast, ← mul_assoc]
      refine lt_of_le_of_lt ?_ below
      gcongr

end

end Json.Numeral

/-! ### Texts of doubles -/

namespace Double

/-- The number was read as a double. -/
def isReal : Except Complaint Number → Bool
  | .ok (.real _) => true
  | _ => false

theorem exists_of_isReal {r : Except Complaint Number} (real : isReal r = true) :
    ∃ y, r = .ok (.real y) := by
  match r, real with
  | .ok (.real y), _ => exact ⟨y, rfl⟩

/-- The texts of the three greatest magnitudes are read. -/
theorem number_greatest : ∀ negative,
    ∀ m ∈ [2 * leastFull - 3, 2 * leastFull - 2, 2 * leastFull - 1],
    (ofParts? negative m maxExponent).all (fun x => isReal x.numeral.number) = true := by
  decide +kernel

theorem shortest_lt {x : Double} (filled : x.shortest.digits ≠ 0)
    (small : x.exponent < maxExponent ∨ x.significand + 4 ≤ 2 * leastFull) :
    (x.shortest.digits : ℚ) * 10 ^ x.shortest.exponent * (1 + relativeError) ^ 2 < overflow ∧
      (Numeral.digits x.shortest.digits).length + x.shortest.exponent ≤ 309 := by
  have below : (x.shortest.digits : ℚ) * 10 ^ x.shortest.exponent * (1 + relativeError) ^ 2 <
      overflow := by
    refine lt_of_le_of_lt ?_ (rounded_twice_lt small)
    have bound := shortest_le x
    gcongr
  refine ⟨below, ?_⟩
  by_contra great
  have first : ((10 ^ ((Numeral.digits x.shortest.digits).length - 1) : ℕ) : ℚ) ≤
      x.shortest.digits := by
    exact_mod_cast Numeral.pow_length_digits_le filled
  have length := List.length_pos_iff.2 (filled_digits x.shortest.digits)
  have reached :
      overflow ≤ x.shortest.digits * 10 ^ x.shortest.exponent * (1 + relativeError) ^ 2 :=
    calc overflow ≤ 10 ^ (((Numeral.digits x.shortest.digits).length - 1 : ℕ) +
            x.shortest.exponent) := overflow_le (by omega)
      _ = ((10 ^ ((Numeral.digits x.shortest.digits).length - 1) : ℕ) : ℚ) *
            10 ^ x.shortest.exponent * 1 ^ 2 := by
          rw [zpow_add₀ (by norm_num), zpow_natCast]
          push_cast
          ring
      _ ≤ x.shortest.digits * 10 ^ x.shortest.exponent * (1 + relativeError) ^ 2 := by
          gcongr
          rw [relativeError]
          norm_num
  exact absurd below (not_lt.2 reached)

/-- The numeral of a double that is not among the greatest is read. -/
theorem number_numeral_of_small {x : Double}
    (small : x.exponent < maxExponent ∨ x.significand + 4 ≤ 2 * leastFull) :
    ∃ y, x.numeral.number = .ok (.real y) := by
  have decimal : ∀ d ∈ Numeral.digits x.shortest.digits, d < 10 :=
    fun d => Numeral.lt_ten_of_mem_digits
  have filled := filled_digits x.shortest.digits
  have shape := shape_numeral x
  generalize x.numeral = n at shape
  cases shape with
  | zero => exact Numeral.number_of_fraction (by simp) (by simp) nofun
  | behind short _ =>
      refine Numeral.number_of_fraction (List.forall_mem_append.2 ⟨decimal, ?_⟩) ?_ nofun
      · intro d member
        rw [List.eq_of_mem_replicate member]
        decide
      · rwa [List.length_append, List.length_replicate]
  | among point _ short inside =>
      refine Numeral.number_of_fraction
        (fun d member => decimal d (List.mem_of_mem_take member)) ?_ ?_
      · rw [List.length_take]
        omega
      · rwa [ne_eq, List.drop_eq_nil_iff, Nat.not_le]
  | before => exact Numeral.number_of_fraction (by simp) (by simp) (by simp [filled])
  | power nonzero =>
      refine Numeral.number_of_power
        (fun d member => decimal d (List.mem_of_mem_take member)) ?_ fun upward => ?_
      · rw [List.length_take]
        omega
      · have digits : x.shortest.digits ≠ 0 := fun zero => nonzero <| by
          rw [zero, Numeral.digits_of_lt (by decide)]
        obtain ⟨below, bounded⟩ := shortest_lt digits small
        have length := List.length_pos_iff.2 filled
        rw [List.take_append_drop, Numeral.natOf_digits, Numeral.natOf_digits, List.length_drop]
        generalize (Numeral.digits x.shortest.digits).length = count at *
        have nonneg : 0 ≤ (count : ℤ) + x.shortest.exponent - 1 := by simpa using upward
        have exponent : (((count : ℤ) + x.shortest.exponent - 1).natAbs : ℤ) - (count - 1 : ℕ) =
            x.shortest.exponent := by omega
        rw [exponent]
        exact ⟨by omega, below⟩

/-- The text of a double is read as a double. -/
theorem number_numeral (x : Double) : ∃ y, x.numeral.number = .ok (.real y) := by
  by_cases small : x.exponent < maxExponent ∨ x.significand + 4 ≤ 2 * leastFull
  · exact number_numeral_of_small small
  · have top : x.exponent = maxExponent ∧ x.significand ∈
        [2 * leastFull - 3, 2 * leastFull - 2, 2 * leastFull - 1] := by
      obtain ⟨bounded, -, -, greatest⟩ := x.fits
      simp only [List.mem_cons, List.not_mem_nil, or_false]
      omega
    have all := number_greatest x.negative x.significand top.2
    have self : ofParts? x.negative x.significand maxExponent = some x := by
      rw [← top.1]
      exact dif_pos x.fits
    rw [self] at all
    exact exists_of_isReal all

end Double

end Podkeeper
