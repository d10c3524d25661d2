import Mathlib.Data.Nat.Find
import Mathlib.Tactic.Common
import Podkeeper.Pod.Status

/-!
Exit codes in texts.

An exit code stands at a position of a text if the word for it, a sign or none, digits of whatever
script and the parenthesis behind them are there (`ExitCode.StandsAt`). A text is searched for the
first such position only, and what stands there is read if its digits are those of ASCII and its
number fits 32 bits (`ExitCode.parse?_eq_iff_reads`).
-/

namespace Podkeeper

/-! ### Numbers of ASCII digits -/

namespace Digit

theorem value?_of_isDigit {c : Char} (ascii : c.isDigit = true) :
    value? c = some (c.toNat - '0'.toNat) := by
  obtain ⟨least, most⟩ := Char.isDigit_iff_toNat.1 ascii
  unfold value?
  rw [if_pos]
  · rfl
  · exact ⟨Char.le_def.2 least, Char.le_def.2 most⟩

theorem value?_eq_none {c : Char} (other : c.isDigit = false) : value? c = none := by
  unfold value?
  rw [if_neg]
  rintro ⟨least, most⟩
  have ascii : c.isDigit = true :=
    Char.isDigit_iff_toNat.2 ⟨Char.le_def.1 least, Char.le_def.1 most⟩
  rw [other] at ascii
  cases ascii

/-- Characters spell a number exactly if all of them are ASCII digits. -/
theorem natFrom_eq_some_iff {cs : List Char} {before n : Nat} :
    natFrom before cs = some n ↔
      (∀ c ∈ cs, c.isDigit = true) ∧ n = Nat.ofDigitChars 10 cs before := by
  induction cs generalizing before with
  | nil =>
      rw [natFrom, Option.some.injEq, Nat.ofDigitChars_nil]
      constructor
      · intro same
        exact ⟨List.forall_mem_nil _, same.symm⟩
      · rintro ⟨-, same⟩
        exact same.symm
  | cons c cs ih =>
      rw [List.forall_mem_cons]
      cases ascii : c.isDigit with
      | true =>
          rw [natFrom, value?_of_isDigit ascii, Nat.ofDigitChars_cons, Nat.mul_comm 10 before]
          simp [ih]
      | false =>
          rw [natFrom, value?_eq_none ascii]
          simp

theorem nat?_eq_some_iff {cs : List Char} (filled : cs ≠ []) {n : Nat} :
    nat? cs = some n ↔ (∀ c ∈ cs, c.isDigit = true) ∧ n = Nat.ofDigitChars 10 cs 0 := by
  cases cs with
  | nil => exact absurd rfl filled
  | cons c cs => exact natFrom_eq_some_iff

end Digit

/-- The ASCII digits are decimal digits. -/
theorem isDecimalDigit_of_isDigit {c : Char} (ascii : c.isDigit = true) :
    isDecimalDigit c = true := by
  obtain ⟨least, most⟩ := Char.isDigit_iff_toNat.1 ascii
  unfold isDecimalDigit
  rw [List.any_eq_true]
  refine ⟨0x30, List.mem_cons_self, ?_⟩
  rw [Bool.and_eq_true, decide_eq_true_eq, decide_eq_true_eq]
  exact ⟨least, most⟩

namespace ExitCode

/-! ### Where exit codes stand -/

/-- An exit code as it is written, with its sign and its digits. -/
def written (negative : Bool) (digits : List Char) : List Char :=
  opening ++ (if negative then ['-'] else []) ++ digits ++ [')']

/-- At a position of a text an exit code stands, with its sign and its digits, which may be those
of any script. -/
structure StandsAt (text : List Char) (position : Nat) (negative : Bool) (digits : List Char) :
    Prop where
  filled : digits ≠ []
  decimal : ∀ d ∈ digits, isDecimalDigit d = true
  there : written negative digits <+: text.drop position

/-- It is the first position of a text at which any exit code stands. -/
structure StandsFirst (text : List Char) (position : Nat) (negative : Bool) (digits : List Char) :
    Prop where
  here : StandsAt text position negative digits
  earlier : ∀ before < position, ∀ negative digits, ¬ StandsAt text before negative digits

variable {cs text digits : List Char} {negative : Bool} {position : Nat}

/-- All digits that there are belong to the exit code, since the parenthesis is no digit. -/
theorem takeWhile_digits (decimal : ∀ d ∈ digits, isDecimalDigit d = true) (rest : List Char) :
    (digits ++ ')' :: rest).takeWhile isDecimalDigit = digits := by
  rw [List.takeWhile_append_of_pos decimal, List.takeWhile_cons_of_neg (by decide),
    List.append_nil]

/-- Digits do not begin with the sign. -/
theorem head?_digits (filled : digits ≠ []) (decimal : ∀ d ∈ digits, isDecimalDigit d = true)
    (rest : List Char) : ((digits ++ rest).head? == some '-') = false := by
  cases digits with
  | nil => exact absurd rfl filled
  | cons d digits =>
      have digit := decimal d List.mem_cons_self
      apply beq_eq_false_iff_ne.2
      intro sign
      rw [Option.some.inj sign] at digit
      exact absurd digit (by decide)

theorem matchHere?_written (filled : digits ≠ [])
    (decimal : ∀ d ∈ digits, isDecimalDigit d = true) (rest : List Char) :
    matchHere? (written negative digits ++ rest) = some (negative, digits) := by
  have opened : opening.isPrefixOf (written negative digits ++ rest) = true := by
    simp [written, List.isPrefixOf_iff_prefix]
  have body : (written negative digits ++ rest).drop opening.length =
      (if negative then ['-'] else []) ++ (digits ++ ')' :: rest) := by
    simp [written]
  have taken := takeWhile_digits decimal rest
  unfold matchHere?
  rw [if_pos opened, body]
  cases negative with
  | true => simp [taken, filled]
  | false =>
      have unsigned := head?_digits filled decimal (')' :: rest)
      simp only [Bool.false_eq_true, if_false, List.nil_append, unsigned, taken]
      simp [filled]

/-- What stands behind a sign, if there is one, is the rest of the text. -/
theorem sign_append (body : List Char) :
    (if body.head? == some '-' then ['-'] else []) ++
      (if body.head? == some '-' then body.tail else body) = body := by
  split
  · next signed =>
      obtain ⟨rest, rfl⟩ := List.head?_eq_some_iff.1 (beq_iff_eq.1 signed)
      rfl
  · rfl

/-- Digits that are taken with the parenthesis behind them begin the text. -/
theorem closed_prefix {body : List Char}
    (closed : (body.drop (body.takeWhile isDecimalDigit).length).head? = some ')') :
    body.takeWhile isDecimalDigit ++ [')'] <+: body := by
  obtain ⟨rest, behind⟩ := List.head?_eq_some_iff.1 closed
  refine ⟨rest, ?_⟩
  rw [List.append_assoc, List.singleton_append, ← behind]
  exact List.prefix_iff_eq_append.1 (List.takeWhile_prefix _)

theorem of_matchHere? (found : matchHere? cs = some (negative, digits)) :
    digits ≠ [] ∧ (∀ d ∈ digits, isDecimalDigit d = true) ∧ written negative digits <+: cs := by
  unfold matchHere? at found
  split at found
  · next opened =>
      obtain ⟨body, rfl⟩ := List.isPrefixOf_iff_prefix.1 opened
      simp only [List.drop_left, Option.ite_none_right_eq_some, Option.some.injEq, Prod.mk.injEq,
        Bool.and_eq_true, Bool.not_eq_true', List.isEmpty_eq_false_iff] at found
      obtain ⟨⟨filled, closed⟩, signed, taken⟩ := found
      have behind := closed_prefix (beq_iff_eq.1 closed)
      have whole := sign_append body
      rw [taken] at filled behind
      rw [signed] at behind whole
      refine ⟨filled, ?_, ?_⟩
      · rw [← taken]
        exact List.all_eq_true.1 List.all_takeWhile
      · rw [← whole, written, List.append_assoc, List.append_assoc, List.prefix_append_right_inj,
          List.prefix_append_right_inj]
        exact behind
  · cases found

/-- What is matched at the beginning of a text is what is written there. -/
theorem matchHere?_eq_some_iff :
    matchHere? (text.drop position) = some (negative, digits) ↔
      StandsAt text position negative digits := by
  constructor
  · intro found
    obtain ⟨filled, decimal, there⟩ := of_matchHere? found
    exact ⟨filled, decimal, there⟩
  · rintro ⟨filled, decimal, rest, whole⟩
    rw [← whole]
    exact matchHere?_written filled decimal rest

theorem matchHere?_eq_none_iff :
    matchHere? (text.drop position) = none ↔
      ∀ negative digits, ¬ StandsAt text position negative digits := by
  rw [Option.eq_none_iff_forall_ne_some]
  constructor
  · intro nothing negative digits stands
    exact nothing _ (matchHere?_eq_some_iff.2 stands)
  · rintro nothing ⟨negative, digits⟩ found
    exact nothing negative digits (matchHere?_eq_some_iff.1 found)

theorem standsFirst_iff :
    StandsFirst text position negative digits ↔
      matchHere? (text.drop position) = some (negative, digits) ∧
        ∀ before < position, matchHere? (text.drop before) = none := by
  simp only [matchHere?_eq_some_iff, matchHere?_eq_none_iff]
  constructor
  · intro first
    exact ⟨first.here, first.earlier⟩
  · rintro ⟨here, earlier⟩
    exact ⟨here, earlier⟩

/-! ### Searching a text -/

/-- The search goes on to a position unless something is matched before it. -/
theorem firstMatch?_of_unmatched
    (unmatched : ∀ before < position, matchHere? (text.drop before) = none) :
    firstMatch? text = firstMatch? (text.drop position) := by
  induction position with
  | zero => rfl
  | succ position ih =>
      rw [ih fun before sooner => unmatched before (Nat.lt_succ_of_lt sooner)]
      have here := unmatched position (Nat.lt_succ_self position)
      rw [← List.tail_drop]
      cases left : text.drop position with
      | nil => rfl
      | cons c cs =>
          rw [left] at here
          rw [firstMatch?, here, Option.none_or, List.tail_cons]

theorem firstMatch?_of_standsFirst (first : StandsFirst text position negative digits) :
    firstMatch? text = some (negative, digits) := by
  obtain ⟨here, earlier⟩ := standsFirst_iff.1 first
  rw [firstMatch?_of_unmatched earlier]
  cases left : text.drop position with
  | nil =>
      rw [left] at here
      cases here
  | cons c cs =>
      rw [left] at here
      rw [firstMatch?, here, Option.some_or]

/-- Nothing is matched behind the end of a text. -/
theorem firstMatch?_of_nowhere
    (nowhere : ∀ position negative digits, ¬ StandsAt text position negative digits) :
    firstMatch? text = none := by
  have unmatched : ∀ before < text.length, matchHere? (text.drop before) = none := by
    intro before _
    exact matchHere?_eq_none_iff.2 (nowhere before)
  rw [firstMatch?_of_unmatched unmatched, List.drop_length]
  rfl

/-- An exit code that stands anywhere is the first one or comes after the first one. -/
theorem nowhere_or_exists_first (text : List Char) :
    (∀ position negative digits, ¬ StandsAt text position negative digits) ∨
      ∃ position negative digits, StandsFirst text position negative digits := by
  classical
  by_cases somewhere : ∃ position negative digits, StandsAt text position negative digits
  · obtain ⟨negative, digits, here⟩ := Nat.find_spec somewhere
    refine .inr ⟨_, negative, digits, here, ?_⟩
    intro before sooner negative digits stands
    exact Nat.find_min somewhere sooner ⟨negative, digits, stands⟩
  · refine .inl ?_
    intro position negative digits stands
    exact somewhere ⟨position, negative, digits, stands⟩

/-! ### Reading what was found -/

/-- The number that a sign and ASCII digits stand for. -/
def number (negative : Bool) (digits : List Char) : Int :=
  if negative then -(Nat.ofDigitChars 10 digits 0) else Nat.ofDigitChars 10 digits 0

/-- The digits are those of ASCII, and their number fits 32 bits. -/
structure IsReadable (negative : Bool) (digits : List Char) : Prop where
  ascii : ∀ d ∈ digits, d.isDigit = true
  least : -2147483648 ≤ number negative digits
  most : number negative digits ≤ 2147483647

theorem value?_eq_some_iff (filled : digits ≠ []) {v : Int32} :
    value? negative digits = some v ↔
      IsReadable negative digits ∧ v.toInt = number negative digits := by
  unfold value?
  simp only [Option.bind_eq_bind, Option.bind_eq_some_iff, Digit.nat?_eq_some_iff filled,
    Option.ite_none_right_eq_some, Option.some.injEq]
  constructor
  · rintro ⟨_, ⟨ascii, rfl⟩, ⟨least, most⟩, rfl⟩
    exact ⟨⟨ascii, least, most⟩, Int32.toInt_ofInt_of_le least (Int.lt_add_one_of_le most)⟩
  · rintro ⟨⟨ascii, least, most⟩, same⟩
    refine ⟨_, ⟨ascii, rfl⟩, ⟨least, most⟩, ?_⟩
    unfold number at same
    rw [← same, Int32.ofInt_toInt]

theorem value?_eq_none_iff (filled : digits ≠ []) :
    value? negative digits = none ↔ ¬ IsReadable negative digits := by
  rw [Option.eq_none_iff_forall_ne_some]
  constructor
  · intro unread readable
    have fits : (Int32.ofInt (number negative digits)).toInt = number negative digits :=
      Int32.toInt_ofInt_of_le readable.least (Int.lt_add_one_of_le readable.most)
    exact unread _ ((value?_eq_some_iff filled).2 ⟨readable, fits⟩)
  · intro unreadable v read
    exact unreadable ((value?_eq_some_iff filled).1 read).1

theorem parse?_of_standsFirst {text : String}
    (first : StandsFirst text.toList position negative digits) :
    parse? text = value? negative digits := by
  rw [parse?, firstMatch?_of_standsFirst first]
  rfl

theorem parse?_of_nowhere {text : String}
    (nowhere : ∀ position negative digits, ¬ StandsAt text.toList position negative digits) :
    parse? text = none := by
  rw [parse?, firstMatch?_of_nowhere nowhere]
  rfl

/-- What the exit code of a text is: that of the first position at which one stands, as far as it
can be read. -/
inductive Reads (text : List Char) : Option Int32 → Prop where
  | nowhere (nowhere : ∀ position negative digits, ¬ StandsAt text position negative digits) :
      Reads text none
  | unreadable {position : Nat} {negative : Bool} {digits : List Char}
      (first : StandsFirst text position negative digits)
      (unreadable : ¬ IsReadable negative digits) : Reads text none
  | code {position : Nat} {negative : Bool} {digits : List Char} {v : Int32}
      (first : StandsFirst text position negative digits) (readable : IsReadable negative digits)
      (same : v.toInt = number negative digits) : Reads text (some v)

/-- The exit code that is found in a text is the one that stands first, if its digits are ASCII and
its number fits; where that one cannot be read or none stands anywhere, there is none. -/
theorem parse?_eq_iff_reads (text : String) (code : Option Int32) :
    parse? text = code ↔ Reads text.toList code := by
  constructor
  · rintro rfl
    rcases nowhere_or_exists_first text.toList with nowhere | ⟨position, negative, digits, first⟩
    · rw [parse?_of_nowhere nowhere]
      exact .nowhere nowhere
    · rw [parse?_of_standsFirst first]
      cases read : value? negative digits with
      | none => exact .unreadable first ((value?_eq_none_iff first.here.filled).1 read)
      | some v =>
          obtain ⟨readable, same⟩ := (value?_eq_some_iff first.here.filled).1 read
          exact .code first readable same
  · intro reads
    cases reads with
    | nowhere nowhere => exact parse?_of_nowhere nowhere
    | unreadable first unreadable =>
        rw [parse?_of_standsFirst first]
        exact (value?_eq_none_iff first.here.filled).2 unreadable
    | code first readable same =>
        rw [parse?_of_standsFirst first]
        exact (value?_eq_some_iff first.here.filled).2 ⟨readable, same⟩

/-- An attempt that fails may hold the beginning of the one that counts, and one that cannot be
read hides those behind it. -/
example :
    parse? "Exited (Exited (-007) Exited (2)" = some (-7) ∧
      parse? "Exited (1x) Exited (2147483648) Exited (2)" = none := by decide +kernel

end ExitCode

end Podkeeper
