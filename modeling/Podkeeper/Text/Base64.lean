/-
Padded base64.

Three bytes become four characters of the standard alphabet; one or two bytes at the end become
two or three characters and `=` signs. Only this canonical form is read back: the length is a
multiple of four, padding stands at the end only, and the bits that carry no byte are zero. Each
refusal says what is wrong first, with the offset counted in bytes.
-/

import Podkeeper.Text.Utf8

namespace Podkeeper

namespace Base64

/-! ### The alphabet -/

/-- The character of a six-bit value. -/
def letter (v : Nat) : Char :=
  if v < 26 then .ofNat (0x41 + v)
  else if v < 52 then .ofNat (0x61 + (v - 26))
  else if v < 62 then .ofNat (0x30 + (v - 52))
  else if v = 62 then '+'
  else '/'

/-- The six-bit value of a byte of the alphabet. -/
def value? (b : UInt8) : Option Nat :=
  let n := b.toNat
  if 0x41 ≤ n ∧ n ≤ 0x5A then some (n - 0x41)
  else if 0x61 ≤ n ∧ n ≤ 0x7A then some (n - 0x61 + 26)
  else if 0x30 ≤ n ∧ n ≤ 0x39 then some (n - 0x30 + 52)
  else if n = 0x2B then some 62
  else if n = 0x2F then some 63
  else none

/-- The padding byte, an equals sign. -/
def pad : UInt8 := 0x3D

/-! ### Writing -/

/-- The characters of `bytes`, in blocks of four. -/
def encodeChars : Bytes → List Char
  | a :: b :: c :: rest =>
    letter (a.toNat / 4) :: letter (a.toNat % 4 * 16 + b.toNat / 16) ::
      letter (b.toNat % 16 * 4 + c.toNat / 64) :: letter (c.toNat % 64) :: encodeChars rest
  | [a, b] =>
    [letter (a.toNat / 4), letter (a.toNat % 4 * 16 + b.toNat / 16), letter (b.toNat % 16 * 4), '=']
  | [a] => [letter (a.toNat / 4), letter (a.toNat % 4 * 16), '=', '=']
  | [] => []

/-- The canonical form of `bytes`. -/
def encode (bytes : Bytes) : String := .ofList (encodeChars bytes)

/-! ### Reading -/

/-- Why a text is not the canonical form of any bytes. -/
inductive Refusal where
  /-- A byte outside the alphabet, or padding where a symbol must stand. -/
  | symbol (byte : UInt8) (offset : Nat)
  /-- A last symbol that holds bits beyond the last byte. -/
  | lastSymbol (byte : UInt8) (offset : Nat)
  /-- So many symbols that the last one alone begins no byte. -/
  | length (symbols : Nat)
  /-- Too little or too much padding. -/
  | padding
deriving DecidableEq, Repr

def Refusal.message : Refusal → String
  | .symbol byte offset => s!"Invalid symbol {byte.toNat}, offset {offset}."
  | .lastSymbol byte offset => s!"Invalid last symbol {byte.toNat}, offset {offset}."
  | .length symbols => s!"Invalid input length: {symbols}"
  | .padding => "Invalid padding"

/-- The three bytes of four six-bit values. -/
def join (v w x y : Nat) : Bytes :=
  [.ofNat (v * 4 + w / 16), .ofNat (w % 16 * 16 + x / 4), .ofNat (x % 4 * 64 + y)]

/-- Reads a symbol at an offset. -/
def symbol (b : UInt8) (offset : Nat) : Except Refusal Nat :=
  match value? b with
  | some v => .ok v
  | none => .error (.symbol b offset)

/-- What the last block holds: symbols with their values and bytes (last first), then padding that
began at an offset. -/
structure Tail where
  values : List (Nat × UInt8)
  padding : Nat
  firstPad : Nat

/-- Reads the bytes of the last block, `index` of them already read. -/
def tail (start : Nat) : Nat → Tail → Bytes → Except Refusal Tail
  | _, t, [] => .ok t
  | index, t, b :: rest =>
    if b = pad then
      if index < 2 then .error (.symbol b (start + index))
      else
        let firstPad := if t.padding = 0 then start + index else t.firstPad
        tail start (index + 1) ⟨t.values, t.padding + 1, firstPad⟩ rest
    else if 0 < t.padding then .error (.symbol pad t.firstPad)
    else do
      let v ← symbol b (start + index)
      tail start (index + 1) ⟨(v, b) :: t.values, 0, 0⟩ rest

/-- The bytes of the last block, at most four bytes long and not empty. -/
def lastBlock (start : Nat) (block : Bytes) : Except Refusal Bytes := do
  let t ← tail start 0 ⟨[], 0, 0⟩ block
  match t.values.reverse with
  | [] | [_] => .error (.length (start + t.values.length))
  | [(v, _), (w, b)] =>
    if t.padding ≠ 2 then .error .padding
    else if w % 16 ≠ 0 then .error (.lastSymbol b (start + 1))
    else .ok ((join v w 0 0).take 1)
  | [(v, _), (w, _), (x, b)] =>
    if t.padding ≠ 1 then .error .padding
    else if x % 4 ≠ 0 then .error (.lastSymbol b (start + 2))
    else .ok ((join v w x 0).take 2)
  | (v, _) :: (w, _) :: (x, _) :: (y, _) :: _ =>
    if t.padding ≠ 0 then .error .padding else .ok (join v w x y)

/-- Reads blocks of four from `offset` on; `acc` holds the bytes read, last first. -/
def blocks (offset : Nat) (acc : Bytes) : Bytes → Except Refusal Bytes
  | a :: b :: c :: d :: e :: rest => do
    let v ← symbol a offset
    let w ← symbol b (offset + 1)
    let x ← symbol c (offset + 2)
    let y ← symbol d (offset + 3)
    blocks (offset + 4) ((join v w x y).reverse ++ acc) (e :: rest)
  | [] => .ok acc.reverse
  | block => do
    let last ← lastBlock offset block
    .ok (acc.reverse ++ last)

/-- A dangling symbol, one more than a multiple of four, is refused before all else if it is
outside the alphabet and is not padding. -/
def dangling (text : Bytes) : Except Refusal Unit :=
  if text.length % 4 = 1 then
    match text.getLast? with
    | some b =>
      if b ≠ pad ∧ (value? b).isNone then .error (.symbol b (text.length - 1)) else .ok ()
    | none => .ok ()
  else .ok ()

/-- The bytes that a canonical text spells. -/
def decode (text : String) : Except Refusal Bytes := do
  let bytes := Utf8.ofString text
  dangling bytes
  blocks 0 [] bytes

end Base64

end Podkeeper
