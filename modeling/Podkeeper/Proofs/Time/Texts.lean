import Podkeeper.Proofs.Json.Numerals
import Podkeeper.Proofs.Outcomes
import Podkeeper.Proofs.Text.Utf8
import Podkeeper.Proofs.Time.Calendar
import Podkeeper.Time.Reader

/-!
Instants are read from their texts.

Every part of a text is followed by a character that is no digit, so the digits of a part are taken
up to its end (`Instant.number_padded`). The parts that are read are those that were written, and
they make the instant again (`Instant.relaxed_text`).
-/

namespace Podkeeper.Instant

open Json.Numeral (digits natOf natOf_append natOf_digits foldl_digits lt_ten_of_mem_digits
  map_digitChar_digits pow_length_digits_le digits_of_lt leading_digits)

/-! ### Numbers -/

/-- The digits of a number with leading zeros up to a width. -/
def paddedDigits (width n : Nat) : List Nat :=
  List.replicate (width - (digits n).length) 0 ++ digits n

theorem padded_eq (width n : Nat) : padded width n = (paddedDigits width n).map Nat.digitChar := by
  rw [padded, ← map_digitChar_digits, List.length_map, paddedDigits, List.map_append,
    List.map_replicate]
  rfl

theorem natOf_paddedDigits (width n : Nat) : natOf (paddedDigits width n) = n := by
  have zeros (k : Nat) : natOf (List.replicate k 0) = 0 := by
    induction k with
    | zero => rfl
    | succ k ih => exact ih
  rw [paddedDigits, natOf_append, zeros, Nat.zero_mul, Nat.zero_add, natOf_digits]

theorem lt_ten_of_mem_paddedDigits {width n d : Nat} (member : d ∈ paddedDigits width n) :
    d < 10 := by
  rcases List.mem_append.1 member with zero | own
  · rw [List.eq_of_mem_replicate zero]
    decide
  · exact lt_ten_of_mem_digits own

theorem length_paddedDigits {width n : Nat} (some_width : 0 < width) (small : n < 10 ^ width) :
    (paddedDigits width n).length = width := by
  have short : (digits n).length ≤ width := by
    by_cases zero : n = 0
    · rw [zero, digits_of_lt (by decide)]
      exact some_width
    · have least := (pow_length_digits_le zero).trans_lt small
      have fewer := (Nat.pow_lt_pow_iff_right (by decide)).1 least
      omega
  rw [paddedDigits, List.length_append, List.length_replicate]
  omega

theorem digit?_digitChar : ∀ d < 10, digit? d.digitChar = some d := by decide

theorem isBlank_digitChar : ∀ d < 10, isBlank d.digitChar = false := by decide

theorem digitChar_ne_sign : ∀ d < 10, d.digitChar ≠ '-' ∧ d.digitChar ≠ '+' := by decide

/-- A number with leading zeros begins with a digit. -/
theorem padded_eq_cons (width n : Nat) :
    ∃ d < 10, ∃ more, padded width n = Nat.digitChar d :: more := by
  have filled : paddedDigits width n ≠ [] := by
    intro none
    rcases leading_digits n with shape | ⟨d, rest, shape, -⟩ <;>
      simp [paddedDigits, shape] at none
  obtain ⟨d, ds, shape⟩ := List.exists_cons_of_ne_nil filled
  have member : d ∈ paddedDigits width n := shape ▸ List.mem_cons_self
  exact ⟨d, lt_ten_of_mem_paddedDigits member, ds.map Nat.digitChar, by
    rw [padded_eq, shape, List.map_cons]⟩

section

variable {c : Char} {cs : List Char}

/-- Digits are taken up to a character that is none. -/
theorem takeDigits_map {ds : List Nat} {max : Nat} (decimal : ∀ d ∈ ds, d < 10)
    (short : ds.length ≤ max) (stop : digit? c = none) :
    takeDigits max (ds.map Nat.digitChar ++ c :: cs) = (ds, c :: cs) := by
  induction ds generalizing max with
  | nil =>
      cases max with
      | zero => rfl
      | succ max =>
          rw [List.map_nil, List.nil_append, takeDigits, stop]
  | cons d ds ih =>
      obtain ⟨first, rest⟩ := List.forall_mem_cons.1 decimal
      cases max with
      | zero => cases short
      | succ max =>
          rw [List.map_cons, List.cons_append, takeDigits, digit?_digitChar d first]
          simp only [ih rest (Nat.le_of_succ_le_succ short)]

/-- A number is read up to a character that is no digit. -/
theorem number_padded {width n max : Nat} (short : (paddedDigits width n).length ≤ max)
    (small : n ≤ 9223372036854775807) (stop : digit? c = none) :
    number 1 max (padded width n ++ c :: cs) = .ok (n, c :: cs) := by
  obtain ⟨d, -, more, shape⟩ := padded_eq_cons width n
  have filled : ¬ (Utf8.encode (padded width n ++ c :: cs)).length < 1 := by
    have first := List.length_pos_iff.2 (Utf8.encodePoint_ne_nil d.digitChar.toNat)
    rw [shape, List.cons_append, Utf8.encode_cons, List.length_append]
    omega
  have some_digit : ¬ (paddedDigits width n).length < 1 := by
    have same := congrArg List.length (padded_eq width n)
    rw [shape, List.length_map, List.length_cons] at same
    omega
  have value : (paddedDigits width n).foldl (fun n d => n * 10 + d) 0 = n :=
    natOf_paddedDigits width n
  rw [number, if_neg filled, padded_eq]
  simp only [takeDigits_map (fun d => lt_ten_of_mem_paddedDigits) short stop, if_neg some_digit,
    value, if_pos small]

/-! ### Parts -/

theorem skipBlanks_cons (filled : isBlank c = false) : skipBlanks (c :: cs) = c :: cs := by
  rw [skipBlanks, List.dropWhile_cons_of_neg (by simp [filled])]

theorem skipBlanks_padded (width n : Nat) :
    skipBlanks (padded width n ++ cs) = padded width n ++ cs := by
  obtain ⟨d, decimal, more, shape⟩ := padded_eq_cons width n
  rw [shape, List.cons_append, skipBlanks_cons (isBlank_digitChar d decimal)]

theorem relaxedLetter_cons (filled : isBlank c = false) :
    relaxedLetter c (c :: cs) = .ok ((), cs) := by
  rw [relaxedLetter, skipBlanks_cons filled, letter, if_pos rfl]

theorem relaxedPart_padded {low high n : Nat} (least : low ≤ n) (most : n ≤ high)
    (small : n < 100) (stop : digit? c = none) :
    relaxedPart low high (padded 2 n ++ c :: cs) = .ok (n, c :: cs) := by
  have length : (paddedDigits 2 n).length ≤ 2 := (length_paddedDigits (by decide) small).le
  rw [relaxedPart, skipBlanks_padded, bounded, number_padded length (by omega) stop, ok_bind]
  exact if_pos ⟨least, most⟩

/-- A year is read up to the hyphen after it. -/
theorem relaxedYear_yearText {year : Int} (least : -2147483648 ≤ year) (most : year ≤ 2147483647) :
    relaxedYear (skipBlanks (yearText year ++ '-' :: cs)) = .ok (year, '-' :: cs) := by
  have stop : digit? '-' = none := by decide
  rw [yearText]
  split
  · rename_i plain
    have length : (paddedDigits 4 year.toNat).length ≤ 4 :=
      (length_paddedDigits (by decide) (by omega)).le
    have read : number 1 4 (padded 4 year.toNat ++ '-' :: cs) = .ok (year.toNat, '-' :: cs) :=
      number_padded length (by omega) stop
    obtain ⟨d, decimal, more, shape⟩ := padded_eq_cons 4 year.toNat
    have unsigned := digitChar_ne_sign d decimal
    rw [skipBlanks_padded]
    rw [shape, List.cons_append] at read ⊢
    rw [relaxedYear, read, ok_bind]
    · change Except.ok ((year.toNat : Int), '-' :: cs) = _
      rw [Int.toNat_of_nonneg plain.1]
    · intro rest same
      exact unsigned.1 (List.cons.inj same).1
    · intro rest same
      exact unsigned.2 (List.cons.inj same).1
  · have length : (paddedDigits 4 year.natAbs).length ≤
        (padded 4 year.natAbs ++ '-' :: cs).length.succ := by
      rw [padded_eq, List.length_append, List.length_map]
      omega
    have read : number 1 (padded 4 year.natAbs ++ '-' :: cs).length.succ
        (padded 4 year.natAbs ++ '-' :: cs) = .ok (year.natAbs, '-' :: cs) :=
      number_padded length (by omega) stop
    split
    · rename_i negative
      have back : -(year.natAbs : Int) = year := by omega
      have fits : yearFits year = .ok year := if_pos ⟨least, most⟩
      rw [List.cons_append, skipBlanks_cons (by decide), relaxedYear, read, ok_bind]
      dsimp only
      rw [back, fits]
      rfl
    · rename_i positive
      have back : (year.natAbs : Int) = year := by omega
      have fits : yearFits year = .ok year := if_pos ⟨least, most⟩
      rw [List.cons_append, skipBlanks_cons (by decide), relaxedYear, read, ok_bind]
      dsimp only
      rw [back, fits]
      rfl

/-- A fraction does not begin with a digit, nor does what comes after it. -/
theorem fractionText_eq_cons (nanos : Nat) :
    ∃ c more, fractionText nanos ++ ['Z'] = c :: more ∧ digit? c = none := by
  rw [fractionText]
  split
  · exact ⟨'Z', [], rfl, by decide⟩
  · split
    · exact ⟨'.', _, rfl, by decide⟩
    · split <;> exact ⟨'.', _, rfl, by decide⟩

/-- The fraction of a second is read up to the letter after it. -/
theorem fraction_fractionText {nanos : Nat} (small : nanos < 1000000000) :
    fraction (fractionText nanos ++ ['Z']) = .ok (nanos, ['Z']) := by
  have stop : digit? 'Z' = none := by decide
  have part {width n : Nat} (some_width : 0 < width) (short : width ≤ 9) (small : n < 10 ^ width)
      (scaled : n * 10 ^ (9 - width) = nanos) :
      fraction ('.' :: padded width n ++ ['Z']) = .ok (nanos, ['Z']) := by
    have length := length_paddedDigits some_width small
    have fits : n ≤ 9223372036854775807 := by
      have most : n ≤ n * 10 ^ (9 - width) := Nat.le_mul_of_pos_right n (by positivity)
      omega
    have count : (padded width n ++ ['Z']).length - ['Z'].length = width := by
      rw [padded_eq, List.length_append, List.length_map, length]
      exact Nat.add_sub_cancel width 1
    rw [List.cons_append, fraction, number_padded (length.le.trans short) fits stop, ok_bind]
    dsimp only
    rw [count]
    change Except.ok (n * 10 ^ (9 - width), ['Z']) = _
    rw [scaled]
  rw [fractionText]
  split
  · rename_i none
    rw [none]
    rfl
  · split
    · exact part (by decide) (by decide) (by omega) (by omega)
    · split
      · exact part (by decide) (by decide) (by omega) (by omega)
      · exact part (by decide) (by decide) (by omega) (by omega)

end

/-! ### Whole texts -/

/-- An instant of the calendar. Only the last second of a minute can be followed by a leap second,
which shares its count. -/
structure IsProper (t : Instant) : Prop where
  valid : t.isValid = true
  nanos : t.nanos < 1000000000 ∨ t.nanos < 2000000000 ∧ t.seconds % 60 = 59

section

variable {t : Instant} {d : Date} {hour minute second nanos : Nat}

/-- Date and time make the instant that has them. -/
theorem ofWritten_of_second (dated : d.isValid = true) (valid : t.isValid = true)
    (usual : second < 60)
    (seconds : t.seconds = d.toDays * 86400 + hour * 3600 + minute * 60 + second)
    (fraction : t.nanos = nanos) :
    ofWritten ⟨d.year, d.month, d.day, hour, minute, second, nanos, 0⟩ = .ok t := by
  have same : (⟨d.toDays * 86400 + hour * 3600 + minute * 60 + second, nanos⟩ : Instant) = t := by
    rw [← seconds, ← fraction]
  have date : (⟨d.year, d.month, d.day⟩ : Date) = d := rfl
  have apart : second ≠ 60 := by omega
  simp [ofWritten, date, dated, apart, same, valid]

/-- The second number 60 is the one before it once more. -/
theorem ofWritten_of_leap (dated : d.isValid = true) (valid : t.isValid = true)
    (seconds : t.seconds = d.toDays * 86400 + hour * 3600 + minute * 60 + 59)
    (fraction : t.nanos = nanos + 1000000000) :
    ofWritten ⟨d.year, d.month, d.day, hour, minute, 60, nanos, 0⟩ = .ok t := by
  have same :
      (⟨d.toDays * 86400 + hour * 3600 + minute * 60 + 59, nanos + 1000000000⟩ : Instant) = t := by
    rw [← seconds, ← fraction]
  have date : (⟨d.year, d.month, d.day⟩ : Date) = d := rfl
  simp [ofWritten, date, dated, same, valid]

end

/-- The parts of a text are read as they were written. -/
theorem relaxed_parts {d : Date} {hour minute second nanos : Nat} (dated : d.isValid = true)
    (hourly : hour ≤ 23) (minutely : minute ≤ 59) (secondly : second ≤ 60)
    (small : nanos < 1000000000) :
    relaxed (.ofList (yearText d.year ++ '-' :: padded 2 d.month ++ '-' :: padded 2 d.day ++
      'T' :: padded 2 hour ++ ':' :: padded 2 minute ++ ':' :: padded 2 second ++
      fractionText nanos ++ ['Z'])) =
    ofWritten ⟨d.year, d.month, d.day, hour, minute, second, nanos, 0⟩ := by
  obtain ⟨⟨least, most⟩, ⟨month, month'⟩, day, day'⟩ := Date.isValid_iff.1 dated
  rw [Date.minYear] at least
  rw [Date.maxYear] at most
  have daily : d.day ≤ 31 := day'.trans (Date.daysInMonth_le _ _)
  have hyphen : digit? '-' = none ∧ isBlank '-' = false := by decide
  have colon : digit? ':' = none ∧ isBlank ':' = false := by decide
  have time : digit? 'T' = none := by decide
  have between (cs : List Char) : separator ('T' :: cs) = .ok ((), cs) := rfl
  have zone : relaxedOffset (skipBlanks ['Z']) = .ok (0, []) := rfl
  have done : (!(skipBlanks []).isEmpty) = false := rfl
  -- what comes after the seconds depends on the fraction, and is no digit in any case
  obtain ⟨c, more, shape, stop⟩ := fractionText_eq_cons nanos
  simp only [List.append_assoc, List.cons_append]
  rw [relaxed, String.toList_ofList, relaxedYear_yearText (by omega) (by omega), ok_bind]
  simp only [ok_bind, relaxedLetter_cons hyphen.2,
    relaxedPart_padded month month' (by omega) hyphen.1,
    relaxedPart_padded day daily (by omega) time, between]
  simp only [ok_bind, relaxedLetter_cons colon.2, shape,
    relaxedPart_padded (Nat.zero_le _) hourly (by omega) colon.1,
    relaxedPart_padded (Nat.zero_le _) minutely (by omega) colon.1,
    relaxedPart_padded (Nat.zero_le _) secondly (by omega) stop]
  simp only [← shape, fraction_fractionText small, ok_bind, zone, done, Bool.false_eq_true,
    if_false]

/-- The day of an instant of the calendar has a date of the calendar. -/
theorem isValid_date {t : Instant} (valid : t.isValid = true) :
    (Date.ofDays (Int.fdiv t.seconds 86400)).isValid = true := by
  have first : Date.toDays ⟨Date.minYear, 1, 1⟩ = -96465292 := rfl
  have last : Date.toDays ⟨Date.maxYear, 12, 31⟩ = 95026236 := rfl
  have bounds : minSeconds ≤ t.seconds ∧ t.seconds ≤ maxSeconds := by
    simpa [isValid] using valid
  rw [minSeconds, maxSeconds] at bounds
  rw [Int.fdiv_eq_ediv_of_nonneg _ (by decide)]
  exact Date.isValid_ofDays (by omega) (by omega)

/-- An instant is read from its text. -/
theorem relaxed_text {t : Instant} (proper : t.IsProper) : relaxed t.text = .ok t := by
  obtain ⟨valid, nanos⟩ := proper
  have dated := isValid_date valid
  obtain ⟨days, floor⟩ : ∃ days, Int.fdiv t.seconds 86400 = days := ⟨_, rfl⟩
  obtain ⟨inDay, rest⟩ : ∃ inDay, (t.seconds - days * 86400).toNat = inDay := ⟨_, rfl⟩
  have split : t.seconds = days * 86400 + inDay ∧ inDay < 86400 := by
    rw [Int.fdiv_eq_ediv_of_nonneg _ (by decide)] at floor
    omega
  have back := Date.toDays_ofDays days
  rw [floor] at dated
  rw [text, floor, rest]
  by_cases leap : 1000000000 ≤ t.nanos
  · have late : inDay % 60 = 59 := by omega
    rw [if_pos leap, if_pos leap, late,
      relaxed_parts dated (by omega) (by omega) (by omega) (by omega)]
    exact ofWritten_of_leap dated valid (by omega) (by omega)
  · rw [if_neg leap, if_neg leap, relaxed_parts dated (by omega) (by omega) (by omega) (by omega)]
    exact ofWritten_of_second dated valid (by omega) (by omega) rfl

end Podkeeper.Instant
