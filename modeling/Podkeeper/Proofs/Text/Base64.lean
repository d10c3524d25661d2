import Podkeeper.Proofs.Text.Trimming
import Podkeeper.Proofs.Text.Utf8
import Podkeeper.Text.Base64

/-!
Bytes survive base64.

What is written has blocks of four bytes, each from the alphabet or padding at the end, so reading
goes block by block as writing does (`Base64.blocks_encodeChars`) and gives the bytes back
(`Base64.decode_encode`). Nothing that is written is blank, so that trimming takes nothing away.
-/

namespace Podkeeper

namespace Base64

/-! ### The alphabet -/

/-- The byte of a character that is written. -/
def code (c : Char) : UInt8 := .ofNat c.toNat

/-- Each letter is a byte that reads as its value, is not padding and not blank. -/
theorem letter_spec : ∀ v < 64, value? (code (letter v)) = some v ∧ code (letter v) ≠ pad ∧
    (letter v).toNat < 0x80 ∧ isBlank (letter v) = false := by
  decide +kernel

theorem symbol_letter {v : Nat} (six : v < 64) (offset : Nat) :
    symbol (code (letter v)) offset = .ok v := by
  simp only [symbol, (letter_spec v six).1]

theorem mem_encodeChars {bytes : Bytes} {c : Char} (member : c ∈ encodeChars bytes) :
    c = '=' ∨ ∃ v < 64, c = letter v := by
  induction bytes using encodeChars.induct with
  | case1 a b c rest ih =>
      have first := a.toNat_lt
      have second := b.toNat_lt
      have third := c.toNat_lt
      simp only [encodeChars, List.mem_cons] at member
      rcases member with rfl | rfl | rfl | rfl | member
      · exact .inr ⟨_, by omega, rfl⟩
      · exact .inr ⟨_, by omega, rfl⟩
      · exact .inr ⟨_, by omega, rfl⟩
      · exact .inr ⟨_, by omega, rfl⟩
      · exact ih member
  | case2 a b =>
      have first := a.toNat_lt
      have second := b.toNat_lt
      simp only [encodeChars, List.mem_cons, List.not_mem_nil, or_false] at member
      rcases member with rfl | rfl | rfl | rfl
      · exact .inr ⟨_, by omega, rfl⟩
      · exact .inr ⟨_, by omega, rfl⟩
      · exact .inr ⟨_, by omega, rfl⟩
      · exact .inl rfl
  | case3 a =>
      have first := a.toNat_lt
      simp only [encodeChars, List.mem_cons, List.not_mem_nil, or_false] at member
      rcases member with rfl | rfl | rfl | rfl
      · exact .inr ⟨_, by omega, rfl⟩
      · exact .inr ⟨_, by omega, rfl⟩
      · exact .inl rfl
      · exact .inl rfl
  | case4 => cases member

/-- What is written is ASCII, a byte for each character. -/
theorem ofString_encode (bytes : Bytes) :
    Utf8.ofString (encode bytes) = (encodeChars bytes).map code := by
  rw [Utf8.ofString, encode, String.toList_ofList]
  refine Utf8.encode_of_ascii fun c member => ?_
  rcases mem_encodeChars member with rfl | ⟨v, six, rfl⟩
  · decide
  · exact (letter_spec v six).2.2.1

/-! ### Blocks -/

theorem join_bytes (a b c : UInt8) :
    join (a.toNat / 4) (a.toNat % 4 * 16 + b.toNat / 16) (b.toNat % 16 * 4 + c.toNat / 64)
      (c.toNat % 64) = [a, b, c] := by
  have second := b.toNat_lt
  have third := c.toNat_lt
  have bytes : a.toNat / 4 * 4 + (a.toNat % 4 * 16 + b.toNat / 16) / 16 = a.toNat ∧
      (a.toNat % 4 * 16 + b.toNat / 16) % 16 * 16 + (b.toNat % 16 * 4 + c.toNat / 64) / 4 =
        b.toNat ∧
      (b.toNat % 16 * 4 + c.toNat / 64) % 4 * 64 + c.toNat % 64 = c.toNat := by
    omega
  simp only [join, bytes, UInt8.ofNat_toNat]

theorem take_one_join (a : UInt8) :
    (join (a.toNat / 4) (a.toNat % 4 * 16) 0 0).take 1 = [a] := by
  have byte : a.toNat / 4 * 4 + a.toNat % 4 * 16 / 16 = a.toNat := by omega
  simp only [join, byte, UInt8.ofNat_toNat, List.take_succ_cons, List.take_zero]

theorem take_two_join (a b : UInt8) :
    (join (a.toNat / 4) (a.toNat % 4 * 16 + b.toNat / 16) (b.toNat % 16 * 4) 0).take 2 =
      [a, b] := by
  have second := b.toNat_lt
  have bytes : a.toNat / 4 * 4 + (a.toNat % 4 * 16 + b.toNat / 16) / 16 = a.toNat ∧
      (a.toNat % 4 * 16 + b.toNat / 16) % 16 * 16 + b.toNat % 16 * 4 / 4 = b.toNat := by
    omega
  simp only [join, bytes, UInt8.ofNat_toNat, List.take_succ_cons, List.take_zero]

section

variable {start index v w x y : Nat} {values : List (Nat × UInt8)} {rest : Bytes}

/-- A letter of the last block. -/
theorem tail_letter (six : v < 64) :
    tail start index ⟨values, 0, 0⟩ (code (letter v) :: rest) =
      tail start (index + 1) ⟨(v, code (letter v)) :: values, 0, 0⟩ rest := by
  rw [tail, if_neg (letter_spec v six).2.1, if_neg (Nat.lt_irrefl 0), symbol_letter six]
  rfl

theorem lastBlock_four (first : v < 64) (second : w < 64) (third : x < 64) (fourth : y < 64) :
    lastBlock start [code (letter v), code (letter w), code (letter x), code (letter y)] =
      .ok (join v w x y) := by
  rw [lastBlock, tail_letter first, tail_letter second, tail_letter third, tail_letter fourth]
  rfl

theorem lastBlock_three (first : v < 64) (second : w < 64) (third : x < 64) (whole : x % 4 = 0) :
    lastBlock start [code (letter v), code (letter w), code (letter x), pad] =
      .ok ((join v w x 0).take 2) := by
  rw [lastBlock, tail_letter first, tail_letter second, tail_letter third]
  change (if x % 4 ≠ 0 then _ else _) = _
  rw [if_neg (not_not.2 whole)]

theorem lastBlock_two (first : v < 64) (second : w < 64) (whole : w % 16 = 0) :
    lastBlock start [code (letter v), code (letter w), pad, pad] =
      .ok ((join v w 0 0).take 1) := by
  rw [lastBlock, tail_letter first, tail_letter second]
  change (if w % 16 ≠ 0 then _ else _) = _
  rw [if_neg (not_not.2 whole)]

end

/-- Blocks that were written are read to their bytes. -/
theorem blocks_encodeChars (bytes : Bytes) (offset : Nat) (acc : Bytes) :
    blocks offset acc ((encodeChars bytes).map code) = .ok (acc.reverse ++ bytes) := by
  induction bytes using encodeChars.induct generalizing offset acc with
  | case1 a b c rest ih =>
      have first := a.toNat_lt
      have second := b.toNat_lt
      have third := c.toNat_lt
      rw [encodeChars]
      simp only [List.map_cons]
      cases written : (encodeChars rest).map code with
      | nil =>
          -- this block is the last one, so there is nothing behind its three bytes
          have read := ih 0 []
          rw [written] at read
          cases read
          rw [blocks, lastBlock_four (by omega) (by omega) (by omega) (by omega), join_bytes]
          · rfl
          · simp
          · simp
      | cons d more =>
          rw [blocks, symbol_letter (by omega), symbol_letter (by omega), symbol_letter (by omega),
            symbol_letter (by omega), ← written]
          change blocks _ _ _ = _
          rw [ih, join_bytes]
          simp
  | case2 a b =>
      have first := a.toNat_lt
      have second := b.toNat_lt
      rw [encodeChars]
      change blocks offset acc [_, _, _, pad] = _
      rw [blocks, lastBlock_three (by omega) (by omega) (by omega) (by omega), take_two_join]
      · rfl
      · simp
      · simp
  | case3 a =>
      have first := a.toNat_lt
      rw [encodeChars]
      change blocks offset acc [_, _, pad, pad] = _
      rw [blocks, lastBlock_two (by omega) (by omega) (by omega), take_one_join]
      · rfl
      · simp
      · simp
  | case4 => simp [encodeChars, blocks]

/-! ### Whole texts -/

theorem length_encodeChars (bytes : Bytes) : (encodeChars bytes).length % 4 = 0 := by
  induction bytes using encodeChars.induct with
  | case1 a b c rest ih =>
      simp only [encodeChars, List.length_cons]
      omega
  | case2 | case3 | case4 => simp [encodeChars]

/-- Bytes are read back from their base64. -/
theorem decode_encode (bytes : Bytes) : decode (encode bytes) = .ok bytes := by
  have whole : ((encodeChars bytes).map code).length % 4 ≠ 1 := by
    rw [List.length_map, length_encodeChars]
    decide
  rw [decode, ofString_encode, dangling, if_neg whole]
  exact blocks_encodeChars bytes 0 []

end Base64

namespace Blank

/-- Trimming leaves base64 as it is. -/
theorem trim_base64 (bytes : Bytes) : trim (Base64.encode bytes) = Base64.encode bytes := by
  rw [trim, Base64.encode, String.toList_ofList, trimChars_of_notBlank]
  intro c member
  rcases Base64.mem_encodeChars member with rfl | ⟨v, six, rfl⟩
  · decide
  · exact (Base64.letter_spec v six).2.2.2

end Blank

end Podkeeper
