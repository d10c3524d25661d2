import Podkeeper.Decimal.Shortest
import Podkeeper.Proofs.Json.Numerals

/-!
Doubles as they are written.

The text of a double shows the digits of its shortest decimal, and wherever the point falls among
them the text is a numeral of JSON (`Double.text_toList`, `Double.wellFormed_numeral`).
-/

namespace Podkeeper.Double

open Json

/-! ### The shortest decimal -/

/-- A decimal that rounds to a double is not zero unless the double is. -/
theorem digits_ne_zero_of_holds {x : Double} {d : Decimal} (filled : x.isZero = false)
    (holds : x.holds d = true) : d.digits ≠ 0 := by
  intro zero
  have significand : x.significand ≠ 0 := by simpa [isZero] using filled
  have positive : 0 < x.interval.1 := by
    simp only [interval]
    split <;> omega
  -- nothing is less than the lower end of the interval, which is above zero
  have below : compareQuarters d.digits d.exponent x.interval.1 x.exponent = .lt := by
    rw [compareQuarters, zero, Nat.compare_eq_lt]
    have ten (k : Nat) : 0 < Nat.pow 10 k := Nat.pow_pos (by decide)
    have two (k : Nat) : 0 < Nat.pow 2 k := Nat.pow_pos (by decide)
    rw [Nat.zero_mul, Nat.zero_mul]
    refine Nat.mul_pos (Nat.mul_pos positive ?_) ?_
    · split
      · exact ten _
      · decide
    · split
      · exact two _
      · decide
  simp [Double.holds, below] at holds

/-- What the search finds rounds to the double; it finds nothing when its count runs out. -/
theorem shortestFrom_holds (x : Double) (num den : Nat) (top : Int) (fuel count : Nat) :
    x.shortestFrom num den top fuel count = ⟨0, 0⟩ ∨
      x.holds (x.shortestFrom num den top fuel count) = true := by
  induction fuel generalizing count with
  | zero => exact .inl rfl
  | succ fuel ih =>
      rw [shortestFrom]
      split
      · rename_i d found
        exact .inr (List.find?_some found)
      · exact ih (count + 1)

/-- The shortest decimal rounds to the double, a single digit one being ten of the power below. -/
inductive Shortened (x : Double) : Decimal → Prop where
  | none : Shortened x ⟨0, 0⟩
  | same (d : Decimal) : x.holds d = true → Shortened x d
  | ten (exponent : Int) : x.holds ⟨10, exponent⟩ = true → Shortened x ⟨1, exponent + 1⟩

theorem shortened_shortest (x : Double) : Shortened x x.shortest := by
  rw [shortest]
  split
  · exact .none
  · dsimp only
    rcases shortestFrom_holds x x.ratio.1 x.ratio.2 (magnitude x.ratio.1 x.ratio.2) 17 1 with
      missed | found
    · rw [missed]
      exact .none
    · split
      · rename_i ten
        refine .ten _ ?_
        rw [← ten]
        exact found
      · exact .same _ found

/-- Only the decimal zero has the digit zero. -/
theorem shortest_exponent {x : Double} (filled : x.isZero = false)
    (zero : x.shortest.digits = 0) : x.shortest.exponent = 0 := by
  have shortened := shortened_shortest x
  cases shape : x.shortest with
  | mk digits exponent =>
      rw [shape] at shortened zero
      cases shortened with
      | none => rfl
      | same _ holds => exact absurd zero (digits_ne_zero_of_holds filled holds)
      | ten => cases zero

/-! ### Numerals -/

/-- The numeral that the text of a double shows. -/
def numeral (x : Double) : Numeral :=
  let d := x.shortest
  let ds := Numeral.digits d.digits
  let point := ds.length + d.exponent
  if x.isZero then ⟨x.negative, [0], [0], none⟩
  else if 0 ≤ d.exponent ∧ point ≤ textStyle.before then
    ⟨x.negative, ds ++ List.replicate d.exponent.toNat 0, [0], none⟩
  else if 0 < point ∧ point ≤ textStyle.before then
    ⟨x.negative, ds.take point.toNat, ds.drop point.toNat, none⟩
  else if -textStyle.after < point ∧ point ≤ 0 then
    ⟨x.negative, [0], List.replicate (-point).toNat 0 ++ ds, none⟩
  else ⟨x.negative, ds.take 1, ds.drop 1, some ⟨point - 1 < 0, Numeral.digits (point - 1).natAbs⟩⟩

theorem filled_digits (n : Nat) : Numeral.digits n ≠ [] := by
  rcases Numeral.leading_digits n with shape | ⟨d, rest, shape, -⟩ <;> simp [shape]

/-- The text of a double is its numeral. -/
theorem text_toList (x : Double) : x.text.toList = x.numeral.chars := by
  rw [text, textIn, String.toList_append, String.toList_ofList]
  simp only [← Numeral.map_digitChar_digits, List.length_map]
  have sign : (if x.negative then "-" else "").toList = if x.negative then ['-'] else [] := by
    cases x.negative <;> rfl
  have filled := filled_digits x.shortest.digits
  rw [sign, numeral]
  generalize signed : (if x.negative then ['-'] else []) = sign
  generalize Numeral.digits x.shortest.digits = ds at filled
  split
  · simp [Numeral.chars, signed, Nat.digitChar]
  · split
    · simp [Numeral.chars, signed, Nat.digitChar]
    · rename_i far
      split
      · -- the point falls among the digits, so that some stand behind it
        have behind : ds.drop (ds.length + x.shortest.exponent).toNat ≠ [] := by
          rw [ne_eq, List.drop_eq_nil_iff]
          omega
        simp [Numeral.chars, signed, behind]
      · split
        · simp [Numeral.chars, signed, filled, Nat.digitChar]
        · obtain ⟨d, rest, rfl⟩ := List.exists_cons_of_ne_nil filled
          cases rest <;> simp [Numeral.chars, signed, Numeral.powerChars]

/-- Where the point falls among the digits of a decimal, and what a numeral looks like then. -/
inductive Shape (negative : Bool) (ds : List Nat) (exponent : Int) : Numeral → Prop where
  | zero : Shape negative ds exponent ⟨negative, [0], [0], none⟩
  /-- The point stands behind the digits, and a lone zero has no more zeros behind it. -/
  | behind : ds.length + exponent.toNat ≤ 16 → (ds = [0] → exponent = 0) →
    Shape negative ds exponent ⟨negative, ds ++ List.replicate exponent.toNat 0, [0], none⟩
  | among (point : Nat) : 0 < point → point ≤ 16 → point < ds.length →
    Shape negative ds exponent ⟨negative, ds.take point, ds.drop point, none⟩
  | before (zeros : Nat) :
    Shape negative ds exponent ⟨negative, [0], List.replicate zeros 0 ++ ds, none⟩
  | power : ds ≠ [0] → Shape negative ds exponent ⟨negative, ds.take 1, ds.drop 1,
    some ⟨ds.length + exponent - 1 < 0, Numeral.digits (ds.length + exponent - 1).natAbs⟩⟩

theorem shape_numeral (x : Double) :
    Shape x.negative (Numeral.digits x.shortest.digits) x.shortest.exponent x.numeral := by
  have lone (nonzero : ¬x.isZero = true) (alone : Numeral.digits x.shortest.digits = [0]) :
      x.shortest.exponent = 0 := by
    refine shortest_exponent (by simpa using nonzero) ?_
    rw [← Numeral.natOf_digits x.shortest.digits, alone]
    rfl
  have places : textStyle.before = 16 := rfl
  rw [numeral]
  split
  · exact .zero
  · rename_i nonzero
    split
    · exact .behind (by omega) (lone nonzero)
    · rename_i far
      split
      · exact .among _ (by omega) (by omega) (by omega)
      · split
        · exact .before _
        · refine .power fun alone => far ?_
          rw [lone nonzero alone, alone]
          decide

theorem leading_append {ds : List Nat} (leading : Numeral.Leading ds) (nonzero : ds ≠ [0])
    (more : List Nat) : Numeral.Leading (ds ++ more) := by
  rcases leading with rfl | ⟨d, rest, rfl, first⟩
  · exact absurd rfl nonzero
  · exact .inr ⟨d, rest ++ more, rfl, first⟩

theorem leading_take {ds : List Nat} (leading : Numeral.Leading ds) {k : Nat} (some' : 0 < k) :
    Numeral.Leading (ds.take k) := by
  obtain ⟨k, rfl⟩ := Nat.exists_eq_succ_of_ne_zero (Nat.ne_of_gt some')
  rcases leading with rfl | ⟨d, rest, rfl, first⟩
  · exact .inl (by simp)
  · exact .inr ⟨d, rest.take k, rfl, first⟩

/-- The text of a double is a number of JSON. -/
theorem wellFormed_numeral (x : Double) : x.numeral.WellFormed := by
  have leading := Numeral.leading_digits x.shortest.digits
  have decimal : ∀ d ∈ Numeral.digits x.shortest.digits, d < 10 :=
    fun d => Numeral.lt_ten_of_mem_digits
  have zeros (k : Nat) : ∀ d ∈ List.replicate k 0, d < 10 := by
    intro d member
    rw [List.eq_of_mem_replicate member]
    decide
  have shape := shape_numeral x
  generalize x.numeral = n at shape
  generalize Numeral.digits x.shortest.digits = ds at leading decimal shape
  cases shape with
  | zero => exact ⟨.inl rfl, by simp, by simp, nofun⟩
  | behind _ lone =>
      refine ⟨?_, List.forall_mem_append.2 ⟨decimal, zeros _⟩, by simp, nofun⟩
      by_cases alone : ds = [0]
      · rw [lone alone, alone]
        exact .inl rfl
      · exact leading_append leading alone _
  | among point some' _ _ =>
      exact ⟨leading_take leading some', fun d member => decimal d (List.mem_of_mem_take member),
        fun d member => decimal d (List.mem_of_mem_drop member), nofun⟩
  | before k => exact ⟨.inl rfl, by simp, List.forall_mem_append.2 ⟨zeros k, decimal⟩, nofun⟩
  | power _ =>
      refine ⟨leading_take leading (by decide),
        fun d member => decimal d (List.mem_of_mem_take member),
        fun d member => decimal d (List.mem_of_mem_drop member), ?_⟩
      rintro _ ⟨rfl⟩
      exact ⟨filled_digits _, fun d => Numeral.lt_ten_of_mem_digits⟩

end Podkeeper.Double
