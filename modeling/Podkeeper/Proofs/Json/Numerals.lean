import Mathlib.Tactic.Linarith
import Mathlib.Tactic.Ring
import Podkeeper.Json.Printer
import Podkeeper.Json.Reader

/-!
Numbers as they are written.

A number is written as a numeral in digits that no other numeral shares. The digits of a whole
number are those that its text shows (`Numeral.map_digitChar_digits`), and a numeral of a whole
number of 64 bits stands for that number (`Numeral.number_ofInt`).
-/

namespace Podkeeper.Json.Numeral

/-! ### Digits -/

/-- The decimal digits of a natural number. -/
def digits (n : Nat) : List Nat := if n < 10 then [n] else digits (n / 10) ++ [n % 10]

theorem digits_of_lt {n : Nat} (small : n < 10) : digits n = [n] := by
  rw [digits, if_pos small]

theorem digits_of_ge {n : Nat} (great : 10 ≤ n) : digits n = digits (n / 10) ++ [n % 10] := by
  rw [digits, if_neg (Nat.not_lt.2 great)]

/-- The text of a number shows its digits. -/
theorem map_digitChar_digits (n : Nat) : (digits n).map Nat.digitChar = (toString n).toList := by
  change _ = n.repr.toList
  rw [Nat.repr_eq_ofList_toDigits, String.toList_ofList]
  induction n using digits.induct with
  | case1 n small => rw [digits_of_lt small, Nat.toDigits_of_lt_base small]; rfl
  | case2 n great ih =>
      rw [digits_of_ge (Nat.not_lt.1 great), List.map_append, ih,
        Nat.toDigits_eq_if (n := n) (by decide), if_neg great]
      rfl

theorem lt_ten_of_mem_digits {n d : Nat} (member : d ∈ digits n) : d < 10 := by
  induction n using digits.induct with
  | case1 n small =>
      rw [digits_of_lt small, List.mem_singleton] at member
      exact member ▸ small
  | case2 n great ih =>
      rw [digits_of_ge (Nat.not_lt.1 great), List.mem_append, List.mem_singleton] at member
      rcases member with member | rfl
      · exact ih member
      · exact Nat.mod_lt n (by decide)

/-- Digits go on from what stands before them. -/
theorem foldl_digits (ds : List Nat) (before : Nat) :
    ds.foldl (fun n d => n * 10 + d) before = before * 10 ^ ds.length + natOf ds := by
  induction ds generalizing before with
  | nil => simp [natOf]
  | cons d ds ih =>
      have first : natOf (d :: ds) = d * 10 ^ ds.length + natOf ds := by
        rw [natOf, List.foldl_cons, ih]
        simp
      rw [List.foldl_cons, ih, first, List.length_cons, Nat.pow_succ]
      ring

theorem natOf_append (ds es : List Nat) :
    natOf (ds ++ es) = natOf ds * 10 ^ es.length + natOf es := by
  rw [natOf, List.foldl_append, foldl_digits]
  rfl

theorem natOf_singleton (d : Nat) : natOf [d] = d := Nat.zero_add d

/-- The first of the digits still to come joins those before them. -/
theorem join_digit (before d : Nat) (ds : List Nat) :
    before * 10 ^ (d :: ds).length + natOf (d :: ds) =
      (before * 10 + d) * 10 ^ ds.length + natOf ds := by
  rw [← foldl_digits, List.foldl_cons, foldl_digits]

/-- The digits of a number stand for it. -/
theorem natOf_digits (n : Nat) : natOf (digits n) = n := by
  induction n using digits.induct with
  | case1 n small =>
      rw [digits_of_lt small, natOf_singleton]
  | case2 n great ih =>
      rw [digits_of_ge (Nat.not_lt.1 great), natOf_append, natOf_singleton, ih,
        List.length_singleton]
      omega

/-- Digits that a number can begin with: a zero stands alone. -/
def Leading (ds : List Nat) : Prop := ds = [0] ∨ ∃ d rest, ds = d :: rest ∧ d ≠ 0

theorem leading_digits (n : Nat) : Leading (digits n) := by
  induction n using digits.induct with
  | case1 n small =>
      rw [digits_of_lt small]
      by_cases zero : n = 0
      · exact .inl (congrArg (fun d => [d]) zero)
      · exact .inr ⟨n, [], rfl, zero⟩
  | case2 n great ih =>
      rw [digits_of_ge (Nat.not_lt.1 great)]
      rcases ih with one | ⟨d, rest, shape, nonzero⟩
      · -- only the number zero begins with a zero, and there are digits before the last one
        have zero := natOf_digits (n / 10)
        rw [one] at zero
        change 0 = n / 10 at zero
        omega
      · exact .inr ⟨d, rest ++ [n % 10], by rw [shape]; rfl, nonzero⟩

theorem natOf_lt {ds : List Nat} (decimal : ∀ d ∈ ds, d < 10) : natOf ds < 10 ^ ds.length := by
  induction ds with
  | nil => decide
  | cons d ds ih =>
      have first := decimal d List.mem_cons_self
      have rest := ih fun e member => decimal e (List.mem_cons_of_mem d member)
      rw [natOf, List.foldl_cons, foldl_digits, List.length_cons, Nat.pow_succ]
      nlinarith

/-- The digits of a number are no more than it needs. -/
theorem pow_length_digits_le {n : Nat} (filled : n ≠ 0) : 10 ^ ((digits n).length - 1) ≤ n := by
  induction n using digits.induct with
  | case1 n small =>
      rw [digits_of_lt small]
      exact Nat.one_le_iff_ne_zero.2 filled
  | case2 n great ih =>
      have nonempty : digits (n / 10) ≠ [] := by
        rcases leading_digits (n / 10) with shape | ⟨d, rest, shape, -⟩ <;> simp [shape]
      obtain ⟨k, length⟩ := Nat.exists_eq_succ_of_ne_zero
        (Nat.ne_of_gt (List.length_pos_iff.2 nonempty))
      have before := ih (by omega)
      rw [length, Nat.succ_sub_one] at before
      rw [digits_of_ge (Nat.not_lt.1 great), List.length_append, List.length_singleton,
        Nat.add_sub_cancel, length, Nat.pow_succ]
      omega

/-- The digits that are taken make a number of 64 bits, and those left over only add to it. -/
theorem takeDigits_spec {before : Nat} (fits : before ≤ 18446744073709551615) (ds : List Nat) :
    (takeDigits before ds).1 ≤ 18446744073709551615 ∧ (takeDigits before ds).2 ≤ ds.length ∧
      (takeDigits before ds).1 * 10 ^ (takeDigits before ds).2 ≤
        before * 10 ^ ds.length + natOf ds := by
  induction ds generalizing before with
  | nil => simp [takeDigits, fits]
  | cons d ds ih =>
      rw [takeDigits, join_digit]
      split
      · rename_i more
        obtain ⟨small, left, bound⟩ := ih more
        exact ⟨small, Nat.le_succ_of_le left, bound⟩
      · refine ⟨fits, Nat.le_refl _, ?_⟩
        dsimp only
        rw [Nat.pow_succ]
        nlinarith [Nat.pow_pos (n := ds.length) (show 0 < 10 by decide)]

/-- Digits whose number 64 bits can hold are all taken. -/
theorem takeDigits_of_le {before : Nat} {ds : List Nat}
    (fits : before * 10 ^ ds.length + natOf ds ≤ 18446744073709551615) :
    takeDigits before ds = (before * 10 ^ ds.length + natOf ds, 0) := by
  induction ds generalizing before with
  | nil => simp [takeDigits, natOf]
  | cons d ds ih =>
      rw [join_digit] at fits ⊢
      have one := Nat.pow_pos (n := ds.length) (show 0 < 10 by decide)
      rw [takeDigits, if_pos (by nlinarith), ih fits]

/-! ### Numerals -/

/-- The characters of an exponent, which always shows its sign. -/
def powerChars (p : Power) : List Char :=
  'e' :: (if p.negative then '-' else '+') :: p.digits.map Nat.digitChar

/-- The characters of a numeral. -/
def chars (n : Numeral) : List Char :=
  (if n.negative then ['-'] else []) ++ n.whole.map Nat.digitChar ++
    (if n.fraction = [] then [] else '.' :: n.fraction.map Nat.digitChar) ++
    n.power.elim [] powerChars

/-- The characters of the numeral are those of a number. -/
structure WellFormed (n : Numeral) : Prop where
  leading : Leading n.whole
  whole : ∀ d ∈ n.whole, d < 10
  fraction : ∀ d ∈ n.fraction, d < 10
  power : ∀ p, n.power = some p → p.digits ≠ [] ∧ ∀ d ∈ p.digits, d < 10

/-- The numeral of a whole number. -/
def ofInt (v : Int) : Numeral := ⟨v < 0, digits v.natAbs, [], none⟩

theorem wellFormed_ofInt (v : Int) : (ofInt v).WellFormed where
  leading := leading_digits _
  whole _ := lt_ten_of_mem_digits
  fraction := nofun
  power := nofun

theorem chars_ofInt (v : Int) : (ofInt v).chars = (toString v).toList := by
  change _ = v.repr.toList
  simp only [chars, ofInt, Option.elim_none, List.append_nil, if_true, decide_eq_true_eq,
    map_digitChar_digits]
  rw [Int.repr_eq_if]
  by_cases negative : v < 0
  · have magnitude : v.natAbs = (-v).toNat := by omega
    rw [if_pos negative, if_neg (Int.not_le.2 negative), String.toList_append, magnitude]
    rfl
  · have magnitude : v.natAbs = v.toNat := by omega
    rw [if_neg negative, if_pos (Int.not_lt.1 negative), magnitude]
    rfl

/-- A whole number of 64 bits is read from its numeral. -/
theorem number_ofInt {v : Int} (inRange : (Number.whole v).InRange) :
    (ofInt v).number = .ok (.whole v) := by
  obtain ⟨least, greatest⟩ := inRange
  have taken : takeDigits 0 (digits v.natAbs) = (v.natAbs, 0) := by
    have read := natOf_digits v.natAbs
    rw [takeDigits_of_le (by omega), read]
    simp
  by_cases negative : v < 0
  · have nonzero : ¬(v = 0 ∨ 9223372036854775808 < v.natAbs) := by omega
    simp [number, ofInt, taken, negative, nonzero, abs_of_neg negative]
  · simp [number, ofInt, taken, negative, Int.not_lt.1 negative]

end Podkeeper.Json.Numeral
