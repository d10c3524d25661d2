/-
Pairs of a form.

A query carries names with values, joined by ampersands, as forms are sent. A name ends at the
first equals sign; a plus sign stands for a space, and a percent sign with two digits for a byte.
Any text is a list of pairs: what cannot be read stands for itself.
-/

import Podkeeper.Text.Digit
import Podkeeper.Text.Utf8

namespace Podkeeper.Form

/-- The value of a byte as a hexadecimal digit. -/
def digit? (b : UInt8) : Option Nat := Digit.hex? (.ofNat b.toNat)

/-- Replaces escapes by what they stand for. -/
def unescape : Bytes → Bytes
  | p :: a :: b :: rest =>
    match if p = 0x25 then (digit? a).bind fun x => (digit? b).map (x * 16 + ·) else none with
    | some n => .ofNat n :: unescape rest
    | none => (if p = 0x2B then 0x20 else p) :: unescape (a :: b :: rest)
  | p :: rest => (if p = 0x2B then 0x20 else p) :: unescape rest
  | [] => []

/-- The text of a name or of a value. -/
def textOf (bytes : Bytes) : String := Utf8.lossy (unescape bytes)

/-- The pair of a part; the value is empty if there is no equals sign. -/
def pairOf (part : Bytes) : String × String :=
  let name := part.takeWhile (· ≠ 0x3D)
  (textOf name, textOf (part.drop (name.length + 1)))

/-- The parts between ampersands; `acc` holds the first one so far, last byte first. -/
def partsFrom (acc : Bytes) : Bytes → List Bytes
  | [] => [acc.reverse]
  | b :: rest => if b = 0x26 then acc.reverse :: partsFrom [] rest else partsFrom (b :: acc) rest

/-- The pairs of a text in order; an empty part is none. -/
def pairs (chars : List Char) : List (String × String) :=
  ((partsFrom [] (Utf8.encode chars)).filter (!·.isEmpty)).map pairOf

end Podkeeper.Form
