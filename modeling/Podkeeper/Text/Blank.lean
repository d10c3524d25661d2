/-
Blank characters.

`isBlank` is the Unicode property White_Space: 25 characters, among them the no-break space and
the ideographic space. Trimming and splitting into words use it. ASCII blanks alone
(`Char.isWhitespace`) are fewer.
-/

namespace Podkeeper

/-- The Unicode property White_Space. -/
def isBlank (c : Char) : Bool :=
  let n := c.toNat
  (0x09 ≤ n && n ≤ 0x0D) || n == 0x20 || n == 0x85 || n == 0xA0 || n == 0x1680 ||
    (0x2000 ≤ n && n ≤ 0x200A) || n == 0x2028 || n == 0x2029 || n == 0x202F || n == 0x205F ||
    n == 0x3000

namespace Blank

/-- Drops the blanks at both ends. -/
def trimChars (cs : List Char) : List Char :=
  ((cs.dropWhile isBlank).reverse.dropWhile isBlank).reverse

/-- Drops the blanks at both ends of a text. -/
def trim (s : String) : String := .ofList (trimChars s.toList)

/-- Splits characters into maximal runs without blanks; `word` holds the run under way, last
character first. -/
def wordsFrom (word : List Char) : List Char → List String
  | [] => if word.isEmpty then [] else [.ofList word.reverse]
  | c :: cs =>
    if isBlank c then
      if word.isEmpty then wordsFrom [] cs else .ofList word.reverse :: wordsFrom [] cs
    else wordsFrom (c :: word) cs

/-- The words of a line: its maximal runs without blanks. -/
def words (line : String) : List String := wordsFrom [] line.toList

/-- There is nothing but blanks in the text. -/
def isBlankText (s : String) : Bool := s.toList.all isBlank

end Blank

end Podkeeper
