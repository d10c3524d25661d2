/-
Text as bytes.

Bodies, files and logs are bytes; names and messages are text. A reader of bytes sees a list of
symbols: the characters that are there, and between them the stray runs of bytes that begin no
character. A stray run is as long as the bytes could still have been the start of a character,
so a lossy reading shows one replacement character for each run. Strict reading, lossy reading
and every parser of bytes go through this one list.
-/

namespace Podkeeper

/-- File contents, request bodies and log output. -/
abbrev Bytes := List UInt8

/-- What a reader of bytes sees: a character, or bytes that begin none. -/
inductive Symbol where
  | char (c : Char)
  | stray (bytes : Bytes)
deriving DecidableEq, Repr

namespace Utf8

/-! ### Writing -/

/-- The code point `n` in one to four bytes. -/
def encodePoint (n : Nat) : Bytes :=
  if n < 0x80 then [.ofNat n]
  else if n < 0x800 then [.ofNat (0xC0 + n / 0x40), .ofNat (0x80 + n % 0x40)]
  else if n < 0x10000 then
    [.ofNat (0xE0 + n / 0x1000), .ofNat (0x80 + n / 0x40 % 0x40), .ofNat (0x80 + n % 0x40)]
  else
    [.ofNat (0xF0 + n / 0x40000), .ofNat (0x80 + n / 0x1000 % 0x40),
      .ofNat (0x80 + n / 0x40 % 0x40), .ofNat (0x80 + n % 0x40)]

/-- The bytes of a list of characters. -/
def encode (cs : List Char) : Bytes :=
  cs.flatMap fun c => encodePoint c.toNat

/-- How many bytes a character takes. -/
def width (c : Char) : Nat := (encodePoint c.toNat).length

/-- How many bytes a text takes. -/
def size (s : String) : Nat := s.utf8ByteSize

/-! ### Reading -/

/-- A character begun but not yet complete: the bytes so far (last first), the code point so far,
how many bytes are missing, and the least and greatest value that the next one may have. -/
structure Begun where
  bytes : Bytes
  point : Nat
  missing : Nat
  low : Nat
  high : Nat

/-- What a first byte announces. The second byte is bounded so that no character has two
spellings, none is a surrogate and none lies beyond the last code point. -/
inductive Lead where
  | whole (c : Char)
  | begun (state : Begun)
  | none

def lead (b : UInt8) : Lead :=
  let n := b.toNat
  if n < 0x80 then .whole (.ofNat n)
  else if n < 0xC2 then .none
  else if n < 0xE0 then .begun ⟨[b], n - 0xC0, 1, 0x80, 0xBF⟩
  else if n = 0xE0 then .begun ⟨[b], 0, 2, 0xA0, 0xBF⟩
  else if n = 0xED then .begun ⟨[b], 0xD, 2, 0x80, 0x9F⟩
  else if n < 0xF0 then .begun ⟨[b], n - 0xE0, 2, 0x80, 0xBF⟩
  else if n = 0xF0 then .begun ⟨[b], 0, 3, 0x90, 0xBF⟩
  else if n < 0xF4 then .begun ⟨[b], n - 0xF0, 3, 0x80, 0xBF⟩
  else if n = 0xF4 then .begun ⟨[b], 4, 3, 0x80, 0x8F⟩
  else .none

/-- The symbols read so far, last first, and the character begun, if any. -/
structure Reading where
  symbols : List Symbol
  begun : Option Begun

/-- Takes a byte where a character may begin. -/
def Reading.start (symbols : List Symbol) (b : UInt8) : Reading :=
  match lead b with
  | .whole c => ⟨.char c :: symbols, none⟩
  | .begun state => ⟨symbols, some state⟩
  | .none => ⟨.stray [b] :: symbols, none⟩

/-- Takes the next byte: it completes or continues the character begun, or leaves that as a
stray run and is a first byte itself. -/
def Reading.step (r : Reading) (b : UInt8) : Reading :=
  match r.begun with
  | none => .start r.symbols b
  | some p =>
    if p.low ≤ b.toNat ∧ b.toNat ≤ p.high then
      let point := p.point * 0x40 + (b.toNat - 0x80)
      if p.missing = 1 then ⟨.char (.ofNat point) :: r.symbols, none⟩
      else ⟨r.symbols, some ⟨b :: p.bytes, point, p.missing - 1, 0x80, 0xBF⟩⟩
    else .start (.stray p.bytes.reverse :: r.symbols) b

/-- Ends the reading: what was begun stays a stray run. -/
def Reading.finish (r : Reading) : List Symbol :=
  match r.begun with
  | none => r.symbols.reverse
  | some p => (.stray p.bytes.reverse :: r.symbols).reverse

/-- The characters and stray runs of `bytes`, in order. -/
def symbols (bytes : Bytes) : List Symbol :=
  (bytes.foldl Reading.step ⟨[], none⟩).finish

/-- Reads text strictly: `none` if some bytes begin no character. -/
def decode? (bytes : Bytes) : Option String :=
  let rec go : List Symbol → List Char → Option String
    | [], acc => some (.ofList acc.reverse)
    | .char c :: rest, acc => go rest (c :: acc)
    | .stray _ :: _, _ => none
  go (symbols bytes) []

/-- Reads text leniently: each stray run becomes one replacement character. -/
def lossy (bytes : Bytes) : String :=
  .ofList ((symbols bytes).map fun
    | .char c => c
    | .stray _ => '\uFFFD')

def ofString (s : String) : Bytes := encode s.toList

end Utf8

end Podkeeper
