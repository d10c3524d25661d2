import Mathlib.Data.String.Basic
import Podkeeper.Proofs.Text.Utf8

/-!
The order of texts is the order of their bytes.

Of two characters the lesser one has the lesser byte where their bytes first differ, and neither is
the beginning of the other (`Utf8.apart_encodePoint`). So texts compare by code points as they
compare by bytes (`Utf8.ofString_lt_iff`).
-/

namespace Podkeeper.Utf8

/-- Two rows of bytes differ at a place, and the first one has the lesser byte there. -/
inductive Apart : Bytes → Bytes → Prop where
  | head {a b : UInt8} (as bs : Bytes) : a < b → Apart (a :: as) (b :: bs)
  | tail (a : UInt8) {as bs : Bytes} : Apart as bs → Apart (a :: as) (a :: bs)

namespace Apart

/-- What comes behind the place does not count. -/
theorem append_lt {as bs : Bytes} (apart : Apart as bs) (us vs : Bytes) :
    as ++ us < bs ++ vs := by
  induction apart with
  | head as bs less => exact List.cons_lt_cons_iff.2 (.inl less)
  | tail a _ ih => exact List.cons_lt_cons_iff.2 (.inr ⟨rfl, ih⟩)

/-- Where first bytes are equal, those behind them decide. -/
theorem byte {m n : Nat} {as bs : Bytes} (small : n < 0x100) (ordered : m ≤ n)
    (rest : m = n → Apart as bs) : Apart (.ofNat m :: as) (.ofNat n :: bs) := by
  rcases Nat.lt_or_eq_of_le ordered with less | same
  · refine .head as bs (UInt8.lt_iff_toNat_lt.2 ?_)
    rwa [toNat_byte (less.trans small), toNat_byte small]
  · subst same
    exact .tail _ (rest rfl)

end Apart

theorem apart_encodePoint {m n : Nat} (less : m < n) (character : n < 0x110000) :
    Apart (encodePoint m) (encodePoint n) := by
  rw [encodePoint, encodePoint]
  -- characters of more bytes have greater first bytes
  split
  · split
    · exact .byte (by omega) (by omega) fun _ => by omega
    · split
      · exact .byte (by omega) (by omega) fun _ => by omega
      · split <;> exact .byte (by omega) (by omega) fun _ => by omega
  · rw [if_neg (show ¬ n < 0x80 by omega)]
    split
    · split
      · exact .byte (by omega) (by omega) fun _ =>
          .byte (by omega) (by omega) fun _ => by omega
      · split <;> exact .byte (by omega) (by omega) fun _ => by omega
    · rw [if_neg (show ¬ n < 0x800 by omega)]
      split
      · split
        · exact .byte (by omega) (by omega) fun _ => .byte (by omega) (by omega) fun _ =>
            .byte (by omega) (by omega) fun _ => by omega
        · exact .byte (by omega) (by omega) fun _ => by omega
      · rw [if_neg (show ¬ n < 0x10000 by omega)]
        exact .byte (by omega) (by omega) fun _ => .byte (by omega) (by omega) fun _ =>
          .byte (by omega) (by omega) fun _ => .byte (by omega) (by omega) fun _ => by omega

theorem encode_lt {cs ds : List Char} (less : cs < ds) : encode cs < encode ds := by
  induction cs generalizing ds with
  | nil =>
      cases ds with
      | nil => exact absurd less (List.lt_irrefl _)
      | cons d ds =>
          obtain ⟨b, bs, bytes⟩ := List.exists_cons_of_ne_nil (encodePoint_ne_nil d.toNat)
          rw [encode_cons, bytes]
          exact List.nil_lt_cons _ _
  | cons c cs ih =>
      cases ds with
      | nil => exact absurd less (List.not_lt_nil _)
      | cons d ds =>
          rw [encode_cons, encode_cons]
          rcases List.cons_lt_cons_iff.1 less with first | ⟨rfl, rest⟩
          · have points : c.toNat < d.toNat := first
            have character : d.toNat < 0xD800 ∨ 0xDFFF < d.toNat ∧ d.toNat < 0x110000 := d.valid
            exact (apart_encodePoint points (by omega)).append_lt _ _
          · exact List.append_left_lt (ih rest)

/-- Texts are ordered like their bytes. -/
theorem ofString_lt_iff {s t : String} : ofString s < ofString t ↔ s < t := by
  refine ⟨fun less => ?_, fun less => encode_lt (String.lt_iff_toList_lt.1 less)⟩
  rcases lt_trichotomy s t with first | same | last
  · exact first
  · exact absurd less (same ▸ List.lt_irrefl _)
  · have other : ofString t < ofString s := encode_lt (String.lt_iff_toList_lt.1 last)
    exact absurd less (List.lt_asymm other)

end Podkeeper.Utf8
