import Mathlib.Data.List.Basic
import Podkeeper.Text.Utf8

/-!
What is written as bytes is read again.

A character is written in one to four bytes. The first of them announces how many follow, and the
bounds on the second one shut out nothing but what is no character, so that a reader who stands
between characters takes the bytes of one and stands between characters again
(`Utf8.foldl_step_encodePoint`).
-/

namespace Podkeeper.Utf8

theorem toNat_byte {n : Nat} (small : n < 0x100) : (UInt8.ofNat n).toNat = n := by
  rw [UInt8.toNat_ofNat']
  exact Nat.mod_eq_of_lt small

theorem encode_cons (c : Char) (cs : List Char) :
    encode (c :: cs) = encodePoint c.toNat ++ encode cs := List.flatMap_cons

theorem encodePoint_ne_nil (n : Nat) : encodePoint n ≠ [] := by
  rw [encodePoint]
  split
  · exact List.cons_ne_nil _ _
  · split
    · exact List.cons_ne_nil _ _
    · split <;> exact List.cons_ne_nil _ _

/-- ASCII characters are written in one byte each. -/
theorem encode_of_ascii {cs : List Char} (ascii : ∀ c ∈ cs, c.toNat < 0x80) :
    encode cs = cs.map fun c => UInt8.ofNat c.toNat := by
  rw [encode, List.map_eq_flatMap]
  refine List.flatMap_congr fun c member => ?_
  rw [encodePoint, if_pos (ascii c member)]

/-! ### First bytes -/

/-- A first byte announces a character of `missing + 1` bytes, the second of which may be `next`. -/
def Announces (b : UInt8) (point missing next : Nat) : Prop :=
  ∃ low high, lead b = .begun ⟨[b], point, missing, low, high⟩ ∧ low ≤ next ∧ next ≤ high

variable {n : Nat}

theorem lead_one (short : n < 0x80) : lead (.ofNat n) = .whole (.ofNat n) := by
  simp only [lead, toNat_byte (show n < 0x100 by omega), if_pos short]

theorem announces_two (least : 0x80 ≤ n) (short : n < 0x800) :
    Announces (.ofNat (0xC0 + n / 0x40)) (n / 0x40) 1 (0x80 + n % 0x40) := by
  refine ⟨0x80, 0xBF, ?_, by omega, by omega⟩
  simp only [lead, toNat_byte (show 0xC0 + n / 0x40 < 0x100 by omega)]
  rw [if_neg (by omega), if_neg (by omega), if_pos (by omega), Nat.add_sub_cancel_left]

theorem announces_three (least : 0x800 ≤ n) (short : n < 0x10000)
    (character : n < 0xD800 ∨ 0xDFFF < n) :
    Announces (.ofNat (0xE0 + n / 0x1000)) (n / 0x1000) 2 (0x80 + n / 0x40 % 0x40) := by
  have byte := toNat_byte (show 0xE0 + n / 0x1000 < 0x100 by omega)
  simp only [Announces, lead, byte]
  rw [if_neg (by omega), if_neg (by omega), if_neg (by omega)]
  -- the two first bytes with bounds of their own keep out long spellings and surrogates
  by_cases first : n / 0x1000 = 0
  · rw [if_pos (by omega), first]
    exact ⟨0xA0, 0xBF, rfl, by omega, by omega⟩
  · rw [if_neg (by omega)]
    by_cases last : n / 0x1000 = 0xD
    · rw [if_pos (by omega), last]
      exact ⟨0x80, 0x9F, rfl, by omega, by omega⟩
    · rw [if_neg (by omega), if_pos (by omega), Nat.add_sub_cancel_left]
      exact ⟨0x80, 0xBF, rfl, by omega, by omega⟩

theorem announces_four (least : 0x10000 ≤ n) (short : n < 0x110000) :
    Announces (.ofNat (0xF0 + n / 0x40000)) (n / 0x40000) 3 (0x80 + n / 0x1000 % 0x40) := by
  have byte := toNat_byte (show 0xF0 + n / 0x40000 < 0x100 by omega)
  simp only [Announces, lead, byte]
  rw [if_neg (by omega), if_neg (by omega), if_neg (by omega), if_neg (by omega),
    if_neg (by omega), if_neg (by omega)]
  by_cases first : n / 0x40000 = 0
  · rw [if_pos (by omega), first]
    exact ⟨0x90, 0xBF, rfl, by omega, by omega⟩
  · rw [if_neg (by omega)]
    by_cases last : n / 0x40000 = 4
    · rw [if_neg (by omega), if_pos (by omega), last]
      exact ⟨0x80, 0x8F, rfl, by omega, by omega⟩
    · rw [if_pos (by omega), Nat.add_sub_cancel_left]
      exact ⟨0x80, 0xBF, rfl, by omega, by omega⟩

/-! ### Reading -/

namespace Reading

variable (symbols : List Symbol) {bytes : Bytes} {point missing low high k : Nat}

theorem step_begun {b : UInt8} {next : Nat} (announced : Announces b point missing next) :
    ∃ bytes low high, Reading.step ⟨symbols, none⟩ b =
        ⟨symbols, some ⟨bytes, point, missing, low, high⟩⟩ ∧ low ≤ next ∧ next ≤ high := by
  obtain ⟨low, high, first, above, below⟩ := announced
  refine ⟨[b], low, high, ?_, above, below⟩
  simp only [step, start, first]

/-- The last byte of a character. -/
theorem step_last (six : k < 0x40) (above : low ≤ 0x80 + k) (below : 0x80 + k ≤ high) :
    Reading.step ⟨symbols, some ⟨bytes, point, 1, low, high⟩⟩ (.ofNat (0x80 + k)) =
      ⟨.char (.ofNat (point * 0x40 + k)) :: symbols, none⟩ := by
  simp only [step, toNat_byte (show 0x80 + k < 0x100 by omega), Nat.add_sub_cancel_left]
  rw [if_pos ⟨above, below⟩]
  rfl

/-- A byte of a character that others follow. -/
theorem step_more (missing : Nat) (six : k < 0x40) (above : low ≤ 0x80 + k)
    (below : 0x80 + k ≤ high) :
    ∃ bytes', Reading.step ⟨symbols, some ⟨bytes, point, missing + 2, low, high⟩⟩
        (.ofNat (0x80 + k)) =
      ⟨symbols, some ⟨bytes', point * 0x40 + k, missing + 1, 0x80, 0xBF⟩⟩ := by
  simp only [step, toNat_byte (show 0x80 + k < 0x100 by omega), Nat.add_sub_cancel_left]
  rw [if_pos ⟨above, below⟩, if_neg (by omega)]
  exact ⟨_, rfl⟩

end Reading

/-- The bytes of a character are read as the character. -/
theorem foldl_step_encodePoint (c : Char) (symbols : List Symbol) :
    (encodePoint c.toNat).foldl Reading.step ⟨symbols, none⟩ = ⟨.char c :: symbols, none⟩ := by
  have character : c.toNat < 0xD800 ∨ 0xDFFF < c.toNat ∧ c.toNat < 0x110000 := c.valid
  suffices read : (encodePoint c.toNat).foldl Reading.step ⟨symbols, none⟩ =
      ⟨.char (.ofNat c.toNat) :: symbols, none⟩ by
    rw [read, Char.ofNat_toNat]
  generalize c.toNat = n at character
  rw [encodePoint]
  split
  · rename_i short
    simp only [List.foldl_cons, List.foldl_nil, Reading.step, Reading.start, lead_one short]
  · split
    · rename_i least short
      obtain ⟨_, low, high, first, above, below⟩ :=
        Reading.step_begun symbols (announces_two (Nat.not_lt.1 least) short)
      rw [List.foldl_cons, first, List.foldl_cons, List.foldl_nil,
        Reading.step_last _ (by omega) above below, Nat.div_add_mod' n 0x40]
    · split
      · rename_i least short
        obtain ⟨_, low, high, first, above, below⟩ := Reading.step_begun symbols
          (announces_three (Nat.not_lt.1 least) short (by omega))
        obtain ⟨_, second⟩ := Reading.step_more symbols 0
          (show n / 0x40 % 0x40 < 0x40 by omega) above below
        rw [List.foldl_cons, first, List.foldl_cons, second, List.foldl_cons, List.foldl_nil,
          Reading.step_last _ (by omega) (by omega) (by omega)]
        have whole : (n / 0x1000 * 0x40 + n / 0x40 % 0x40) * 0x40 + n % 0x40 = n := by omega
        rw [whole]
      · rename_i least
        obtain ⟨_, low, high, first, above, below⟩ := Reading.step_begun symbols
          (announces_four (Nat.not_lt.1 least) (by omega))
        obtain ⟨_, second⟩ := Reading.step_more symbols 1
          (show n / 0x1000 % 0x40 < 0x40 by omega) above below
        obtain ⟨_, third⟩ := Reading.step_more symbols 0
          (show n / 0x40 % 0x40 < 0x40 by omega) (show 0x80 ≤ 0x80 + n / 0x40 % 0x40 by omega)
          (show 0x80 + n / 0x40 % 0x40 ≤ 0xBF by omega)
        rw [List.foldl_cons, first, List.foldl_cons, second, List.foldl_cons, third,
          List.foldl_cons, List.foldl_nil, Reading.step_last _ (by omega) (by omega) (by omega)]
        have whole :
            ((n / 0x40000 * 0x40 + n / 0x1000 % 0x40) * 0x40 + n / 0x40 % 0x40) * 0x40 + n % 0x40 =
              n := by omega
        rw [whole]

/-- The symbols of a text that was written are its characters. -/
theorem symbols_encode (cs : List Char) : symbols (encode cs) = cs.map .char := by
  have read (before : List Symbol) :
      (encode cs).foldl Reading.step ⟨before, none⟩ = ⟨(cs.map .char).reverse ++ before, none⟩ := by
    induction cs generalizing before with
    | nil => rfl
    | cons c cs ih =>
        rw [encode_cons, List.foldl_append, foldl_step_encodePoint]
        exact (ih _).trans (by simp)
  rw [symbols, read, List.append_nil]
  exact List.reverse_reverse _

/-- A text is read back from its bytes. -/
theorem lossy_ofString (s : String) : lossy (ofString s) = s := by
  rw [lossy, ofString, symbols_encode, List.map_map]
  exact (congrArg String.ofList (List.map_id _)).trans String.ofList_toList

theorem ofString_injective : Function.Injective ofString :=
  Function.LeftInverse.injective lossy_ofString

end Podkeeper.Utf8
