/-
The text of a YAML stream.

A stream is a list of characters, each with its place: the index, the line and the column. All
ways to end a line become a line feed first, but for the two Unicode separators, which stay what
they are.

A stream is taken a block of bytes at a time, and nothing of a block can be read if it holds
something that is not admitted. Whoever reads asks for a few characters at once; the reading fails
where it asks for one that lies in such a block, even if it would not have used it.
-/

import Podkeeper.Text.Utf8

namespace Podkeeper.Yaml

/-! ### Characters -/

def isBreak (c : Char) : Bool := c = '\n' || c = '\u2028' || c = '\u2029'

def isGap (c : Char) : Bool := c = ' ' || c = '\t'

/-- A character of names: a letter, a digit, a hyphen or an underscore. -/
def isNameChar (c : Char) : Bool := c.isAlphanum || c = '-' || c = '_'

/-- The character may stand in a stream. -/
def isAllowed (c : Char) : Bool :=
  let n := c.toNat
  n == 0x09 || n == 0x0A || n == 0x0D || (0x20 ≤ n && n ≤ 0x7E) || n == 0x85 ||
    (0xA0 ≤ n && n ≤ 0xD7FF) || (0xE000 ≤ n && n ≤ 0xFFFD) || 0x10000 ≤ n

/-! ### Blocks -/

/-- A stream is taken so many bytes at a time; a character that does not fit goes to the next
block. -/
def blockSize : Nat := 16384

/-- How many bytes a character has that begins with this byte. -/
def announced? (b : UInt8) : Option Nat :=
  if b < 0x80 then some 1
  else if b &&& 0xE0 = 0xC0 then some 2
  else if b &&& 0xF0 = 0xE0 then some 3
  else if b &&& 0xF8 = 0xF0 then some 4
  else none

/-- How many bytes are waited for before a symbol is judged. -/
def awaited : Symbol → Nat
  | .char c => c.utf8Size
  | .stray bytes => (bytes.head?.bind announced?).getD 1

/-- The characters before the first block that cannot be read, and whether there is none. The
bytes count from the beginning of the stream: `size` is their number, and the block began at
`start`. Characters stand last first: those before the block, and all so far. -/
def readableFrom (size start offset : Nat) (before all : List Char) :
    List Symbol → List Char × Bool
  | [] => (all.reverse, true)
  | s :: rest =>
    let next := offset + awaited s
    let isBehind := start + blockSize < next || size < next
    let before := if isBehind then all else before
    let start := if isBehind then offset else start
    match s with
    | .char c =>
      if isAllowed c then readableFrom size start next before (c :: all) rest
      else (before.reverse, false)
    | .stray _ => (before.reverse, false)

/-- The characters of a stream that can be read, and whether these are all. -/
def readable (bytes : Bytes) : List Char × Bool :=
  readableFrom bytes.length 0 0 [] [] (Utf8.symbols bytes)

/-! ### Places -/

/-- A place in a stream; the index counts bytes. -/
structure Place where
  index : Nat
  line : Nat
  column : Nat
deriving DecidableEq, Repr

def Place.after (p : Place) (c : Char) : Place :=
  let index := p.index + c.utf8Size
  if isBreak c then ⟨index, p.line + 1, 0⟩ else ⟨index, p.line, p.column + 1⟩

/-- A character at its place, and how many characters can be asked for from here on. -/
structure Spot where
  char : Char
  place : Place
  ahead : Nat
deriving Repr

/-- The spots of characters, every line being ended by a line feed; `acc` holds those so far, last
first. Also the place behind the last one. -/
def locate (acc : List Spot) (place : Place) (ahead : Nat) : List Char → List Spot × Place
  | '\r' :: '\n' :: cs => locate (⟨'\n', place, ahead⟩ :: acc) (place.after '\n') (ahead - 2) cs
  | c :: cs =>
    let c := if c = '\r' ∨ c = '\x85' then '\n' else c
    locate (⟨c, place, ahead⟩ :: acc) (place.after c) (ahead - 1) cs
  | [] => (acc.reverse, place)

/-- How many characters can be asked for at the end of a stream; they are all nothing. -/
def maxAhead : Nat := 8

/-- The spots of the characters that can be read, and the place behind them. If they are not all,
a spot follows for which nothing can be asked. -/
def spots (text : List Char × Bool) : List Spot × Place :=
  let (cs, isAll) := text
  let (spots, finish) := locate [] ⟨0, 0, 0⟩ (cs.length + if isAll then maxAhead else 0) cs
  (if isAll then spots else spots ++ [⟨'\x00', finish, 0⟩], finish)

/-! ### What comes next -/

/-- So many characters can be asked for. -/
def look (n : Nat) (t : List Spot) : Bool := t.head?.all (n ≤ ·.ahead)

/-- The next character is the given one. -/
def startsWith (t : List Spot) (c : Char) : Bool := t.head?.any (·.char == c)

/-- What comes next is a gap, a line break or the end. -/
def isBoundary (t : List Spot) : Bool := t.head?.all fun s => isGap s.char || isBreak s.char

/-- What comes next is a line break or the end. -/
def isLineEnd (t : List Spot) : Bool := t.head?.all (isBreak ·.char)

def skipGaps (t : List Spot) : List Spot := t.dropWhile (isGap ·.char)

/-- The spot ends a line, or all that can be read. -/
def Spot.endsLine (s : Spot) : Bool := isBreak s.char || s.ahead = 0

/-- Goes past a comment, if there is one. -/
def skipComment (t : List Spot) : List Spot :=
  if startsWith t '#' then t.dropWhile (!·.endsLine) else t

/-- Goes past the end of the line that comes next. -/
def skipLineEnd? (t : List Spot) : Option (List Spot) :=
  if isLineEnd t && look 2 t then some t.tail else none

/-- At the beginning of a line a character stands three times and alone. -/
def atMark (c : Char) : List Spot → Bool
  | x :: y :: z :: rest =>
    x.place.column == 0 && x.char == c && y.char == c && z.char == c && isBoundary rest
  | _ => false

/-- A document begins or ends here. -/
def atDocumentMark (t : List Spot) : Bool := atMark '-' t || atMark '.' t

end Podkeeper.Yaml
