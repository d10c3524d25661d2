/-
The text of a JSON value.

Compact: no blanks between parts, members in their given order. In a text the quote, the
backslash and the controls are escaped and every other character stands as itself.
-/

import Podkeeper.Json.Value
import Podkeeper.Text.Digit
import Podkeeper.Text.Utf8

namespace Podkeeper.Json

/-- How a character stands in a text. -/
def escape (c : Char) : List Char :=
  if c = '"' then ['\\', '"']
  else if c = '\\' then ['\\', '\\']
  else if c = '\n' then ['\\', 'n']
  else if c = '\r' then ['\\', 'r']
  else if c = '\t' then ['\\', 't']
  else if c = '\x08' then ['\\', 'b']
  else if c = '\x0c' then ['\\', 'f']
  else if c.toNat < 0x20 then
    ['\\', 'u', '0', '0', Digit.hexChar (c.toNat / 16), Digit.hexChar (c.toNat % 16)]
  else [c]

/-- A text between quotes. -/
def quote (s : String) : List Char := '"' :: (s.toList.flatMap escape ++ ['"'])

def Number.chars : Number → List Char
  | .whole n => (toString n).toList
  | .real x => x.text.toList

namespace Value

mutual

/-- Writes a value after the characters `acc`, which stand in reverse. -/
def writeAfter (acc : List Char) : Value → List Char
  | .null => 'l' :: 'l' :: 'u' :: 'n' :: acc
  | .flag true => 'e' :: 'u' :: 'r' :: 't' :: acc
  | .flag false => 'e' :: 's' :: 'l' :: 'a' :: 'f' :: acc
  | .number n => n.chars.reverseAux acc
  | .text s => (quote s).reverseAux acc
  | .list items => ']' :: writeItems ('[' :: acc) true items
  | .object members => '\x7d' :: writeMembers ('\x7b' :: acc) true members

/-- Writes items, a comma before each but the first. -/
def writeItems (acc : List Char) (first : Bool) : List Value → List Char
  | [] => acc
  | v :: vs => writeItems (writeAfter (if first then acc else ',' :: acc) v) false vs

/-- Writes members, a comma before each but the first. -/
def writeMembers (acc : List Char) (first : Bool) : List (String × Value) → List Char
  | [] => acc
  | (k, v) :: ms =>
    let acc := if first then acc else ',' :: acc
    writeMembers (writeAfter (':' :: (quote k).reverseAux acc) v) false ms

end

def chars (v : Value) : List Char := (v.writeAfter []).reverse

def render (v : Value) : String := .ofList v.chars

def bytes (v : Value) : Bytes := Utf8.encode v.chars

end Value

end Podkeeper.Json
