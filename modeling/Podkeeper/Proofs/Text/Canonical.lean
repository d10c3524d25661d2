import Mathlib.Tactic.Ring
import Podkeeper.Proofs.Outcomes
import Podkeeper.Proofs.Text.Base64

/-!
Canonical base64.

Whether a text is the base64 of some bytes is seen without the bytes: symbols of the alphabet are
padded to a multiple of four, and the bits that no byte takes are zero (`Base64.IsCanonical`). What
such a text stands for is seen without writing it: the bits of its symbols, six each, are those of
the bytes, eight each (`Base64.Spells`). Reading accepts exactly the canonical texts and gives the
bytes that are written as the text (`Base64.decode_eq_ok_iff`, `Base64.isCanonical_iff`).
-/

namespace Podkeeper.Base64

/-! ### Symbols and bits -/

/-- The symbols in the order of their values. -/
def alphabet : List Char :=
  "ABCDEFGHIJKLMNOPQRSTUVWXYZabcdefghijklmnopqrstuvwxyz0123456789+/".toList

/-- The lowest bits of a number, the highest of them first. -/
def bits : Nat → Nat → List Bool
  | 0, _ => []
  | width + 1, n => bits width (n / 2) ++ [n % 2 == 1]

/-- The bits of symbols, six each. -/
def symbolBits (symbols : List Char) : List Bool :=
  symbols.flatMap fun c => bits 6 (alphabet.idxOf c)

/-- The bits of bytes, eight each. -/
def byteBits (bytes : Bytes) : List Bool := bytes.flatMap fun b => bits 8 b.toNat

/-- A text consists of symbols and of padding at its end, in blocks of four. -/
structure IsPadded (text symbols : List Char) (padding : Nat) : Prop where
  split : text = symbols ++ .replicate padding '='
  standard : ∀ c ∈ symbols, c ∈ alphabet
  few : padding ≤ 2
  whole : text.length % 4 = 0

/-- A text is padded, and each sign of padding stands for two bits of the last symbol, which are
zero. -/
def IsCanonical (text : String) : Prop :=
  ∃ symbols padding, IsPadded text.toList symbols padding ∧
    .replicate (2 * padding) false <:+ symbolBits symbols

/-- A text is padded, and its symbols hold the bits of bytes and zeros for the padding. -/
def Spells (text : String) (bytes : Bytes) : Prop :=
  ∃ symbols padding, IsPadded text.toList symbols padding ∧
    symbolBits symbols = byteBits bytes ++ .replicate (2 * padding) false

/-- What spells bytes is canonical. -/
theorem Spells.isCanonical {text : String} {bytes : Bytes} (spells : Spells text bytes) :
    IsCanonical text := by
  obtain ⟨symbols, padding, padded, held⟩ := spells
  exact ⟨symbols, padding, padded, held ▸ List.suffix_append _ _⟩

theorem alphabet_eq : alphabet = (List.range 64).map letter := by decide +kernel

theorem idxOf_letter : ∀ v < 64, alphabet.idxOf (letter v) = v := by decide +kernel

theorem mem_alphabet {c : Char} : c ∈ alphabet ↔ ∃ v < 64, c = letter v := by
  simp [alphabet_eq, eq_comm]

theorem symbolBits_letters {vs : List Nat} (six : ∀ v ∈ vs, v < 64) :
    symbolBits (vs.map letter) = vs.flatMap (bits 6) := by
  rw [symbolBits, List.flatMap_map]
  exact List.flatMap_congr fun v member => by rw [idxOf_letter v (six v member)]

/-- Symbols are the letters of their values. -/
theorem exists_values {symbols : List Char} (standard : ∀ c ∈ symbols, c ∈ alphabet) :
    ∃ vs : List Nat, symbols = vs.map letter ∧ ∀ v ∈ vs, v < 64 := by
  induction symbols with
  | nil => exact ⟨[], rfl, List.forall_mem_nil _⟩
  | cons c symbols ih =>
      obtain ⟨first, others⟩ := List.forall_mem_cons.1 standard
      obtain ⟨v, six, rfl⟩ := mem_alphabet.1 first
      obtain ⟨vs, rfl, sixes⟩ := ih others
      exact ⟨v :: vs, rfl, List.forall_mem_cons.2 ⟨six, sixes⟩⟩

theorem length_bits (width n : Nat) : (bits width n).length = width := by
  induction width generalizing n with
  | zero => rfl
  | succ width ih => rw [bits, List.length_append, ih, List.length_singleton]

/-- The bits of two numbers in a row are those of one number. -/
theorem bits_append (high : Nat) {low b : Nat} (a : Nat) (small : b < 2 ^ low) :
    bits (high + low) (a * 2 ^ low + b) = bits high a ++ bits low b := by
  induction low generalizing b with
  | zero =>
      obtain rfl : b = 0 := by omega
      simp [bits]
  | succ low ih =>
      have front : a * 2 ^ (low + 1) = a * 2 ^ low * 2 := by rw [Nat.pow_succ, Nat.mul_assoc]
      have half : (a * 2 ^ (low + 1) + b) / 2 = a * 2 ^ low + b / 2 := by omega
      have last : (a * 2 ^ (low + 1) + b) % 2 = b % 2 := by omega
      have shorter : b / 2 < 2 ^ low := by
        rw [Nat.pow_succ] at small
        omega
      rw [← Nat.add_assoc, bits, half, last, ih shorter, bits, List.append_assoc]

theorem bits_zero (width : Nat) : bits width 0 = .replicate width false := by
  induction width with
  | zero => rfl
  | succ width ih =>
      rw [bits, Nat.zero_div, ih, List.replicate_succ']
      rfl

/-- A number that is moved up leaves zeros behind it. -/
theorem bits_mul_two_pow (high low a : Nat) :
    bits (high + low) (a * 2 ^ low) = bits high a ++ .replicate low false := by
  have filled := bits_append high a (Nat.two_pow_pos low)
  rwa [Nat.add_zero, bits_zero] at filled

/-- A number is cut where its lowest bits begin. -/
theorem bits_cut (high low n : Nat) :
    bits (high + low) n = bits high (n / 2 ^ low) ++ bits low (n % 2 ^ low) := by
  rw [← bits_append high (n / 2 ^ low) (Nat.mod_lt n (Nat.two_pow_pos low)), Nat.div_add_mod']

/-! ### Writing -/

section

variable (a b c : UInt8)

theorem bits_first : bits 8 a.toNat = bits 6 (a.toNat / 4) ++ bits 2 (a.toNat % 4) :=
  bits_cut 6 2 _

theorem bits_second : bits 8 b.toNat = bits 4 (b.toNat / 16) ++ bits 4 (b.toNat % 16) :=
  bits_cut 4 4 _

theorem bits_third : bits 8 c.toNat = bits 2 (c.toNat / 64) ++ bits 6 (c.toNat % 64) :=
  bits_cut 2 6 _

theorem bits_first_second : bits 6 (a.toNat % 4 * 16 + b.toNat / 16) =
    bits 2 (a.toNat % 4) ++ bits 4 (b.toNat / 16) := by
  have byte := b.toNat_lt
  exact bits_append 2 _ (show b.toNat / 16 < 2 ^ 4 by omega)

theorem bits_second_third : bits 6 (b.toNat % 16 * 4 + c.toNat / 64) =
    bits 4 (b.toNat % 16) ++ bits 2 (c.toNat / 64) := by
  have byte := c.toNat_lt
  exact bits_append 4 _ (show c.toNat / 64 < 2 ^ 2 by omega)

end

/-- Bytes are written in symbols that hold their bits, and padded. -/
theorem exists_values_encodeChars (bytes : Bytes) : ∃ (vs : List Nat) (padding : Nat),
    encodeChars bytes = vs.map letter ++ .replicate padding '=' ∧ (∀ v ∈ vs, v < 64) ∧
      padding ≤ 2 ∧ vs.flatMap (bits 6) = byteBits bytes ++ .replicate (2 * padding) false := by
  induction bytes using encodeChars.induct with
  | case1 a b c rest ih =>
      have first := a.toNat_lt
      have second := b.toNat_lt
      have third := c.toNat_lt
      obtain ⟨vs, padding, split, six, few, held⟩ := ih
      refine ⟨a.toNat / 4 :: (a.toNat % 4 * 16 + b.toNat / 16) ::
        (b.toNat % 16 * 4 + c.toNat / 64) :: c.toNat % 64 :: vs, padding, ?_, ?_, few, ?_⟩
      · rw [encodeChars, split]
        rfl
      · simp only [List.forall_mem_cons]
        exact ⟨by omega, by omega, by omega, by omega, six⟩
      · rw [byteBits] at held ⊢
        simp only [List.flatMap_cons, held, bits_first a, bits_second b, bits_third c,
          bits_first_second, bits_second_third, List.append_assoc]
  | case2 a b =>
      have first := a.toNat_lt
      have second := b.toNat_lt
      refine ⟨[a.toNat / 4, a.toNat % 4 * 16 + b.toNat / 16, b.toNat % 16 * 4], 1, ?_, ?_,
        by omega, ?_⟩
      · rw [encodeChars]
        rfl
      · simp only [List.forall_mem_cons]
        exact ⟨by omega, by omega, by omega, List.forall_mem_nil _⟩
      · have last : bits 6 (b.toNat % 16 * 4) = bits 4 (b.toNat % 16) ++ .replicate 2 false :=
          bits_mul_two_pow 4 2 _
        rw [byteBits]
        simp only [List.flatMap_cons, List.flatMap_nil, bits_first a, bits_second b,
          bits_first_second, last, List.append_assoc, List.append_nil]
  | case3 a =>
      have first := a.toNat_lt
      refine ⟨[a.toNat / 4, a.toNat % 4 * 16], 2, ?_, ?_, by omega, ?_⟩
      · rw [encodeChars]
        rfl
      · simp only [List.forall_mem_cons]
        exact ⟨by omega, by omega, List.forall_mem_nil _⟩
      · have last : bits 6 (a.toNat % 4 * 16) = bits 2 (a.toNat % 4) ++ .replicate 4 false :=
          bits_mul_two_pow 2 4 _
        rw [byteBits]
        simp only [List.flatMap_cons, List.flatMap_nil, bits_first a, last, List.append_assoc,
          List.append_nil]
  | case4 => exact ⟨[], 0, rfl, List.forall_mem_nil _, by omega, rfl⟩

/-- What is written spells the bytes. -/
theorem spells_encode (bytes : Bytes) : Spells (encode bytes) bytes := by
  obtain ⟨vs, padding, split, six, few, held⟩ := exists_values_encodeChars bytes
  refine ⟨vs.map letter, padding, ⟨?_, ?_, few, ?_⟩, ?_⟩
  · rw [encode, String.toList_ofList, split]
  · intro c member
    obtain ⟨v, among, rfl⟩ := List.mem_map.1 member
    exact mem_alphabet.2 ⟨v, six v among, rfl⟩
  · rw [encode, String.toList_ofList, length_encodeChars]
  · rw [symbolBits_letters six, held]

/-! ### Reading -/

/-- Four values are written as three bytes. -/
theorem encodeChars_join {v w x y : Nat} (first : v < 64) (second : w < 64) (third : x < 64)
    (fourth : y < 64) (rest : Bytes) : encodeChars (join v w x y ++ rest) =
      letter v :: letter w :: letter x :: letter y :: encodeChars rest := by
  have one := Utf8.toNat_byte (show v * 4 + w / 16 < 0x100 by omega)
  have two := Utf8.toNat_byte (show w % 16 * 16 + x / 4 < 0x100 by omega)
  have three := Utf8.toNat_byte (show x % 4 * 64 + y < 0x100 by omega)
  have values : (v * 4 + w / 16) / 4 = v ∧
      (v * 4 + w / 16) % 4 * 16 + (w % 16 * 16 + x / 4) / 16 = w ∧
      (w % 16 * 16 + x / 4) % 16 * 4 + (x % 4 * 64 + y) / 64 = x ∧
      (x % 4 * 64 + y) % 64 = y := by
    omega
  simp only [join, List.cons_append, List.nil_append, encodeChars, one, two, three, values]

theorem encodeChars_take_two {v w x : Nat} (first : v < 64) (second : w < 64) (third : x < 64)
    (whole : x % 4 = 0) :
    encodeChars ((join v w x 0).take 2) = [letter v, letter w, letter x, '='] := by
  have one := Utf8.toNat_byte (show v * 4 + w / 16 < 0x100 by omega)
  have two := Utf8.toNat_byte (show w % 16 * 16 + x / 4 < 0x100 by omega)
  have values : (v * 4 + w / 16) / 4 = v ∧
      (v * 4 + w / 16) % 4 * 16 + (w % 16 * 16 + x / 4) / 16 = w ∧
      (w % 16 * 16 + x / 4) % 16 * 4 = x := by
    omega
  simp only [join, List.take_succ_cons, List.take_zero, encodeChars, one, two, values]

theorem encodeChars_take_one {v w : Nat} (first : v < 64) (second : w < 64) (whole : w % 16 = 0) :
    encodeChars ((join v w 0 0).take 1) = [letter v, letter w, '=', '='] := by
  have one := Utf8.toNat_byte (show v * 4 + w / 16 < 0x100 by omega)
  have values : (v * 4 + w / 16) / 4 = v ∧ (v * 4 + w / 16) % 4 * 16 = w := by omega
  simp only [join, List.take_succ_cons, List.take_zero, encodeChars, one, values]

/-- A byte that is read as a symbol is that of a letter. -/
theorem code_letter_value :
    ∀ n < 256, ∀ v ∈ value? (.ofNat n), v < 64 ∧ .ofNat n = code (letter v) := by
  decide +kernel

theorem symbol_eq_ok {b : UInt8} {offset v : Nat} (read : symbol b offset = .ok v) :
    v < 64 ∧ b = code (letter v) := by
  rw [symbol] at read
  split at read
  · rename_i value
    cases read
    have spec := code_letter_value b.toNat b.toNat_lt
    rw [UInt8.ofNat_toNat] at spec
    exact spec v value
  · cases read

/-- Behind padding there is padding only. -/
theorem tail_padding {start index padding firstPad : Nat} {values : List (Nat × UInt8)}
    {block : Bytes} {t : Tail} (given : 0 < padding)
    (read : tail start index ⟨values, padding, firstPad⟩ block = .ok t) :
    ∃ more, block = .replicate more pad ∧ t.values = values ∧ t.padding = padding + more := by
  induction block generalizing index padding firstPad with
  | nil =>
      cases read
      exact ⟨0, rfl, rfl, rfl⟩
  | cons b rest ih =>
      rw [tail] at read
      split at read
      · rename_i isPad
        split at read
        · cases read
        · obtain ⟨more, rfl, values, count⟩ := ih (Nat.succ_pos _) read
          exact ⟨more + 1, by rw [isPad, List.replicate_succ], values,
            count.trans (Nat.add_right_comm padding 1 more)⟩
      · cases read

/-- The last block consists of letters and of padding. -/
theorem tail_eq_ok {start index : Nat} {values : List (Nat × UInt8)} {block : Bytes} {t : Tail}
    (read : tail start index ⟨values, 0, 0⟩ block = .ok t) :
    ∃ vs : List Nat, block = (vs.map fun v => code (letter v)) ++ .replicate t.padding pad ∧
      (∀ v ∈ vs, v < 64) ∧
      t.values = (vs.map fun v => (v, code (letter v))).reverse ++ values := by
  induction block generalizing index values with
  | nil =>
      cases read
      exact ⟨[], rfl, List.forall_mem_nil _, rfl⟩
  | cons b rest ih =>
      rw [tail] at read
      split at read
      · rename_i isPad
        split at read
        · cases read
        · obtain ⟨more, rfl, values, count⟩ := tail_padding (Nat.succ_pos _) read
          refine ⟨[], ?_, List.forall_mem_nil _, values⟩
          rw [isPad, count, Nat.add_comm, List.replicate_succ]
          rfl
      · rw [if_neg (Nat.lt_irrefl 0)] at read
        obtain ⟨v, first, read⟩ := bind_eq_ok.1 read
        obtain ⟨six, rfl⟩ := symbol_eq_ok first
        obtain ⟨vs, rfl, sixes, values⟩ := ih read
        exact ⟨v :: vs, rfl, List.forall_mem_cons.2 ⟨six, sixes⟩, by simp [values]⟩

/-- A last block that is read is what its bytes are written as. -/
theorem eq_of_lastBlock {start : Nat} {block bytes : Bytes} (short : block.length ≤ 4)
    (read : lastBlock start block = .ok bytes) : block = (encodeChars bytes).map code := by
  obtain ⟨t, parts, made⟩ := bind_eq_ok.1 read
  obtain ⟨vs, same, six, values⟩ := tail_eq_ok parts
  have reversed : t.values.reverse = vs.map fun v => (v, code (letter v)) := by simp [values]
  rw [reversed] at made
  rw [same] at short ⊢
  match vs with
  | [] | [_] => cases made
  | [v, w] =>
      simp only [List.forall_mem_cons] at six
      simp only [List.map_cons, List.map_nil] at made
      split at made
      · cases made
      · rename_i two
        split at made
        · cases made
        · rename_i whole
          cases made
          rw [encodeChars_take_one six.1 six.2.1 (not_not.1 whole), not_not.1 two]
          rfl
  | [v, w, x] =>
      simp only [List.forall_mem_cons] at six
      simp only [List.map_cons, List.map_nil] at made
      split at made
      · cases made
      · rename_i one
        split at made
        · cases made
        · rename_i whole
          cases made
          rw [encodeChars_take_two six.1 six.2.1 six.2.2.1 (not_not.1 whole), not_not.1 one]
          rfl
  | v :: w :: x :: y :: more =>
      simp only [List.forall_mem_cons] at six
      simp only [List.map_cons] at made
      split at made
      · cases made
      · rename_i none
        cases made
        have last : more = [] := by
          simp only [List.length_append, List.length_map, List.length_cons] at short
          exact List.length_eq_zero_iff.1 (by omega)
        have written := encodeChars_join six.1 six.2.1 six.2.2.1 six.2.2.2.1 []
        rw [List.append_nil] at written
        rw [written, not_not.1 none, last]
        rfl

theorem length_le_four {block : Bytes}
    (short : ∀ a b c d e rest, block ≠ a :: b :: c :: d :: e :: rest) : block.length ≤ 4 := by
  rcases block with _ | ⟨a, _ | ⟨b, _ | ⟨c, _ | ⟨d, _ | ⟨e, rest⟩⟩⟩⟩⟩
  case cons.cons.cons.cons.cons => exact absurd rfl (short a b c d e rest)
  all_goals simp

/-- Blocks that are read are what their bytes are written as. -/
theorem exists_of_blocks {offset : Nat} {acc block out : Bytes}
    (read : blocks offset acc block = .ok out) :
    ∃ bytes, out = acc.reverse ++ bytes ∧ block = (encodeChars bytes).map code := by
  induction offset, acc, block using blocks.induct with
  | case1 offset acc a b c d e rest ih =>
      rw [blocks] at read
      obtain ⟨v, first, read₁⟩ := bind_eq_ok.1 read
      obtain ⟨w, second, read₂⟩ := bind_eq_ok.1 read₁
      obtain ⟨x, third, read₃⟩ := bind_eq_ok.1 read₂
      obtain ⟨y, fourth, read₄⟩ := bind_eq_ok.1 read₃
      obtain ⟨six₁, rfl⟩ := symbol_eq_ok first
      obtain ⟨six₂, rfl⟩ := symbol_eq_ok second
      obtain ⟨six₃, rfl⟩ := symbol_eq_ok third
      obtain ⟨six₄, rfl⟩ := symbol_eq_ok fourth
      obtain ⟨bytes, rfl, written⟩ := ih v w x y read₄
      refine ⟨join v w x y ++ bytes, by simp, ?_⟩
      rw [encodeChars_join six₁ six₂ six₃ six₄, written]
      rfl
  | case2 offset acc =>
      rw [blocks] at read
      cases read
      exact ⟨[], (List.append_nil _).symm, rfl⟩
  | case3 offset acc block short filled =>
      rw [blocks] at read
      · obtain ⟨last, done, made⟩ := bind_eq_ok.1 read
        cases made
        exact ⟨last, rfl, eq_of_lastBlock (length_le_four short) done⟩
      · exact short
      · exact filled

/-- A text is read as bytes exactly if it is what they are written as. -/
theorem decode_eq_ok_iff {text : String} {bytes : Bytes} :
    decode text = .ok bytes ↔ text = encode bytes := by
  constructor
  · intro read
    obtain ⟨-, -, read⟩ := bind_eq_ok.1 read
    obtain ⟨bytes', rfl, written⟩ := exists_of_blocks read
    rw [← ofString_encode] at written
    exact Utf8.ofString_injective written
  · rintro rfl
    exact decode_encode bytes

/-! ### Canonical texts -/

/-- The last four bits, or the last two, are zero. -/
theorem mod_of_zeros : ∀ v < 64,
    (.replicate 4 false <:+ bits 6 v → v % 16 = 0) ∧
      (.replicate 2 false <:+ bits 6 v → v % 4 = 0) := by
  decide +kernel

/-- Zeros at the end of all bits are at the end of the last ones, if these are as many. -/
theorem zeros_of_suffix {count : Nat} {front back : List Bool}
    (zeros : .replicate count false <:+ front ++ back) (short : count ≤ back.length) :
    .replicate count false <:+ back :=
  List.suffix_of_suffix_length_le zeros (List.suffix_append _ _) (by simpa using short)

/-- Values whose bits end in zeros for the padding are those of some bytes. -/
theorem exists_of_values {padding : Nat} (few : padding ≤ 2) :
    ∀ vs : List Nat, (∀ v ∈ vs, v < 64) → (vs.length + padding) % 4 = 0 →
      .replicate (2 * padding) false <:+ vs.flatMap (bits 6) →
      ∃ bytes, encodeChars bytes = vs.map letter ++ .replicate padding '='
  | [], _, whole, _ => by
      obtain rfl : padding = 0 := by
        rw [List.length_nil] at whole
        omega
      exact ⟨[], rfl⟩
  | [_], _, whole, _ => by
      rw [List.length_singleton] at whole
      omega
  | [v, w], six, whole, zeros => by
      obtain rfl : padding = 2 := by
        simp only [List.length_cons, List.length_nil] at whole
        omega
      simp only [List.forall_mem_cons] at six
      simp only [List.flatMap_cons, List.flatMap_nil, List.append_nil] at zeros
      have last : .replicate 4 false <:+ bits 6 w :=
        zeros_of_suffix zeros (by rw [length_bits]; omega)
      exact ⟨_, encodeChars_take_one six.1 six.2.1 ((mod_of_zeros w six.2.1).1 last)⟩
  | [v, w, x], six, whole, zeros => by
      obtain rfl : padding = 1 := by
        simp only [List.length_cons, List.length_nil] at whole
        omega
      simp only [List.forall_mem_cons] at six
      simp only [List.flatMap_cons, List.flatMap_nil, List.append_nil, ← List.append_assoc] at zeros
      have last : .replicate 2 false <:+ bits 6 x :=
        zeros_of_suffix zeros (by rw [length_bits]; omega)
      exact ⟨_, encodeChars_take_two six.1 six.2.1 six.2.2.1 ((mod_of_zeros x six.2.2.1).2 last)⟩
  | v :: w :: x :: y :: rest, six, whole, zeros => by
      simp only [List.forall_mem_cons] at six
      simp only [List.flatMap_cons, ← List.append_assoc] at zeros
      simp only [List.length_cons] at whole
      -- there is no padding if this block is the last one
      have short : 2 * padding ≤ (rest.flatMap (bits 6)).length := by
        simp only [List.length_flatMap, length_bits, List.map_const', List.sum_replicate_nat]
        omega
      obtain ⟨bytes, written⟩ :=
        exists_of_values few rest six.2.2.2.2 (by omega) (zeros_of_suffix zeros short)
      refine ⟨join v w x y ++ bytes, ?_⟩
      rw [encodeChars_join six.1 six.2.1 six.2.2.1 six.2.2.2.1, written]
      rfl

/-- A text is canonical exactly if bytes are written as it. -/
theorem isCanonical_iff {text : String} : IsCanonical text ↔ ∃ bytes, text = encode bytes := by
  constructor
  · rintro ⟨symbols, padding, ⟨split, standard, few, whole⟩, zeros⟩
    obtain ⟨vs, rfl, six⟩ := exists_values standard
    rw [symbolBits_letters six] at zeros
    rw [split, List.length_append, List.length_map, List.length_replicate] at whole
    obtain ⟨bytes, written⟩ := exists_of_values few vs six whole zeros
    refine ⟨bytes, ?_⟩
    rw [encode, written, ← split, String.ofList_toList]
  · rintro ⟨bytes, rfl⟩
    exact (spells_encode bytes).isCanonical

end Podkeeper.Base64
