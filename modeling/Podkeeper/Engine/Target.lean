/-
Targets of requests.

A name that goes into the path of a request is put there as it is; what comes of it is then read
as an address. Blanks at its end, tabs and line ends vanish, a question mark begins a query and a
number sign ends it all. In the path a part of one point is dropped, a part of two points goes up,
and what may not stand there is written as a percent sign and two digits for each byte.
-/

import Podkeeper.Files.Path
import Podkeeper.Text.Digit
import Podkeeper.Text.Form

namespace Podkeeper.Engine

/-- What a request is directed at. -/
structure Target where
  path : String
  query : List (String × String)
deriving DecidableEq, Repr

namespace Target

/-! ### Characters -/

/-- The character vanishes from an address. -/
def isDropped (c : Char) : Bool := c = '\t' || c = '\n' || c = '\r'

/-- The character vanishes at the end of an address. -/
def isTrimmed (c : Char) : Bool := c.toNat ≤ 0x20

/-- The characters that may not stand in a path as they are. -/
def isEscaped (c : Char) : Bool :=
  c.toNat ≤ 0x20 || 0x7F ≤ c.toNat || ['"', '<', '>', '\x60', '\x7b', '\x7d'].contains c

/-- A byte as a percent sign and two digits. -/
def percent (b : UInt8) : List Char :=
  ['%', (Digit.hexChar (b.toNat / 16)).toUpper, (Digit.hexChar (b.toNat % 16)).toUpper]

/-- A character as it stands in a path. -/
def escape (c : Char) : List Char :=
  if isEscaped c then (Utf8.encodePoint c.toNat).flatMap percent else [c]

/-! ### Parts -/

/-- What a part of a path does. -/
inductive Part where
  | name (chars : List Char)
  /-- Goes nowhere. -/
  | stay
  /-- Goes up. -/
  | up
deriving DecidableEq, Repr

/-- Reads a point, which may be written as a percent sign and two digits. -/
def point? : List Char → Option (List Char)
  | '.' :: rest => some rest
  | '%' :: '2' :: d :: rest => if d = 'e' || d = 'E' then some rest else none
  | _ => none

def Part.ofChars (chars : List Char) : Part :=
  match point? chars with
  | some [] => .stay
  | some rest => if point? rest = some [] then .up else .name chars
  | none => .name chars

/-- Walks along the parts of a path; the parts that were passed stand last first. A path that ends
with a point or two ends with a slash. -/
def walk (passed : List (List Char)) : List Part → List (List Char)
  | [] => passed.reverse
  | [.stay] => ([] :: passed).reverse
  | [.up] => ([] :: passed.tail).reverse
  | .stay :: rest => walk passed rest
  | .up :: rest => walk passed.tail rest
  | .name chars :: rest => walk (chars :: passed) rest

/-- The path of an address, given by its characters behind the first slash. -/
def pathOf (chars : List Char) : String :=
  let parts := (Path.splitFrom [] (chars.flatMap escape)).map Part.ofChars
  "/" ++ .ofList (['/'].intercalate (walk [] parts))

/-- The target of an address that begins with a slash. -/
def ofAddress (address : String) : Target :=
  let chars := (address.toList.reverse.dropWhile isTrimmed).reverse.filter (!isDropped ·)
  let chars := chars.takeWhile (· ≠ '#')
  let path := chars.takeWhile (· ≠ '?')
  ⟨pathOf (path.drop 1), Form.pairs (chars.drop (path.length + 1))⟩

end Target

end Podkeeper.Engine
