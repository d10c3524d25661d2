/-
Quoted text in messages.

A text that is shown inside a message stands between double quotes, and every character in it
that would not show is written as an escape: the quote and the backslash, the common controls by
their letters, and all other characters without a shape of their own by their code point.
-/

import Podkeeper.Text.Shapeless

namespace Podkeeper.Quoted

/-- The escape of a code point in lower-case hexadecimal digits. -/
def pointEscape (c : Char) : List Char :=
  '\\' :: 'u' :: '\x7b' :: (Nat.toDigits 16 c.toNat ++ ['\x7d'])

/-- How a character stands between quotes. -/
def escape (c : Char) : List Char :=
  if c = '\x00' then ['\\', '0']
  else if c = '\t' then ['\\', 't']
  else if c = '\n' then ['\\', 'n']
  else if c = '\r' then ['\\', 'r']
  else if c = '"' then ['\\', '"']
  else if c = '\\' then ['\\', '\\']
  else if isShapeless c then pointEscape c
  else [c]

def quote (s : String) : String := .ofList ('"' :: (s.toList.flatMap escape ++ ['"']))

end Podkeeper.Quoted
