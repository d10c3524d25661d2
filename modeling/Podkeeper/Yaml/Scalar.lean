/-
Scalars of YAML.

A scalar is written plain, between single or double quotes, or as a block that keeps or folds its
lines. Where lines are folded, one line break becomes a space and further ones stay. Reading a
scalar gives its text and what follows it, or nothing if the text stops being YAML there, or stops
being readable before what the reading asks for.
-/

import Podkeeper.Text.Digit
import Podkeeper.Yaml.Text

namespace Podkeeper.Yaml

/-- How a scalar is written. -/
inductive Style where
  | plain
  | singleQuoted
  | doubleQuoted
  | literal
  | folded
deriving DecidableEq, Repr

/-! ### Folding lines -/

/-- A scalar under way, everything last first: its text, gaps that count if text follows on the
line, and, after a line break, the first break and the further ones. -/
structure Folding where
  text : List Char
  gaps : List Char
  first : List Char
  more : List Char
  broken : Bool

namespace Folding

def empty : Folding := ⟨[], [], [], [], false⟩

/-- Text follows: gaps and breaks that stand before it take effect. -/
def join (f : Folding) : Folding :=
  if f.broken then
    let breaks :=
      if f.first = ['\n'] then (if f.more.isEmpty then [' '] else f.more) else f.more ++ f.first
    ⟨breaks ++ f.text, [], [], [], false⟩
  else ⟨f.gaps ++ f.text, [], [], [], false⟩

/-- Adds a character to the text. -/
def push (f : Folding) (c : Char) : Folding := { f.join with text := c :: f.join.text }

def gap (f : Folding) (c : Char) : Folding :=
  if f.broken then f else { f with gaps := c :: f.gaps }

def lineBreak (f : Folding) (c : Char) : Folding :=
  if f.broken then { f with more := c :: f.more }
  else { f with gaps := [], first := [c], broken := true }

/-- Takes a line break that counts for nothing. -/
def hiddenBreak (f : Folding) : Folding := { f.join with broken := true }

def result (f : Folding) : String := .ofList f.text.reverse

end Folding

/-! ### Plain scalars -/

/-- A plain scalar ends before this character. -/
def endsPlain (inFlow : Bool) (c : Char) (rest : List Spot) : Bool :=
  (c = ':' && isBoundary rest) ||
    (inFlow && (c = ',' || c = '[' || c = ']' || c = '\x7b' || c = '\x7d'))

/-- A colon within a flow collection that stands before an indicator. -/
def isStrayColon (inFlow : Bool) (c : Char) (rest : List Spot) : Bool :=
  inFlow && c = ':' && rest.head?.any fun s =>
    s.char = ',' || s.char = '?' || s.char = '[' || s.char = ']' || s.char = '\x7b' ||
      s.char = '\x7d'

/-- How many characters are asked for in a plain scalar: a line break may be of two, the mark of a
document has four with what follows it, and within a word one decides about the one before it. -/
def plainNeed (fresh outdented : Bool) (c : Char) : Nat :=
  if !fresh || isBreak c then 2 else if isGap c || outdented then 1 else 4

/-- Reads on in a plain scalar. After a gap (`fresh`) a comment or the end of a document ends
it, and in a block so does a line that is not indented by `indent`. -/
def readPlain (inFlow : Bool) (indent : Int) (fresh first : Bool) (f : Folding) :
    List Spot → Option (List Spot × Folding)
  | [] => some ([], f)
  | s :: rest =>
    let c := s.char
    let outdented := !first && !inFlow && s.place.column < indent
    if s.ahead < plainNeed fresh outdented c then none
    else if isGap c then
      if f.broken && s.place.column < indent && c = '\t' then none
      else readPlain inFlow indent true false (f.gap c) rest
    else if isBreak c then readPlain inFlow indent true false (f.lineBreak c) rest
    else if fresh && outdented then some (s :: rest, f)
    else if fresh && (atDocumentMark (s :: rest) || c = '#') then some (s :: rest, f)
    else if isStrayColon inFlow c rest then none
    else if endsPlain inFlow c rest then some (s :: rest, f)
    else readPlain inFlow indent false false (f.push c) rest

/-! ### Quoted scalars -/

/-- The character that an escape letter stands for. -/
def letter? (c : Char) : Option Char :=
  match c with
  | '0' => some '\x00'
  | 'a' => some '\x07'
  | 'b' => some '\x08'
  | 't' | '\t' => some '\t'
  | 'n' => some '\n'
  | 'v' => some '\x0b'
  | 'f' => some '\x0c'
  | 'r' => some '\r'
  | 'e' => some '\x1b'
  | ' ' | '"' | '/' | '\\' => some c
  | 'N' => some '\x85'
  | '_' => some '\u00a0'
  | 'L' => some '\u2028'
  | 'P' => some '\u2029'
  | _ => none

/-- How many hexadecimal digits follow an escape letter. -/
def digitCount? (c : Char) : Option Nat :=
  if c = 'x' then some 2 else if c = 'u' then some 4 else if c = 'U' then some 8 else none

/-- The number of so many hexadecimal digits. -/
def readHex (value : Nat) : Nat → List Spot → Option (Nat × List Spot)
  | 0, t => some (value, t)
  | _ + 1, [] => none
  | n + 1, s :: rest => do readHex (value * 16 + (← Digit.hex? s.char)) n rest

/-- The character of an escape, and what follows it. -/
def readEscape (letter : Char) (rest : List Spot) : Option (Char × List Spot) :=
  match letter? letter with
  | some c => some (c, rest)
  | none => do
    let (n, rest) ← readHex 0 (← digitCount? letter) rest
    if (0xD800 ≤ n ∧ n ≤ 0xDFFF) ∨ 0x10FFFF < n then none else some (.ofNat n, rest)

/-- Where reading stands in a quoted scalar. -/
inductive Within where
  /-- At its beginning. -/
  | opening
  /-- Behind a character of a word. -/
  | word
  /-- Behind a gap or a line break. -/
  | gap
  /-- Behind a line break that counts for nothing. -/
  | hidden
deriving DecidableEq, Repr

/-- How many characters are asked for in a quoted scalar. -/
def quotedNeed (w : Within) (quote c : Char) : Nat :=
  match w with
  | .opening => 4
  | .word => 2
  | .gap => if isBreak c then 2 else if isGap c then 1 else 4
  | .hidden => if isBreak c then 2 else if isGap c || c = quote then 1 else 4

/-- Reads on in a quoted scalar up to its closing quote. -/
def readQuoted (single : Bool) :
    Nat → Within → Folding → List Spot → Option (List Spot × Folding)
  | 0, _, _, _ => none
  | _, _, _, [] => none
  | fuel + 1, w, f, s :: rest =>
    let c := s.char
    let quote := if single then '\'' else '"'
    if s.ahead < quotedNeed w quote c then none
    else if isGap c then readQuoted single fuel .gap (f.gap c) rest
    else if isBreak c then readQuoted single fuel .gap (f.lineBreak c) rest
    else if atDocumentMark (s :: rest) then none
    else if c = quote then
      if single && startsWith rest quote then
        readQuoted single fuel .word (f.push c) rest.tail
      else some (rest, f.join)
    else if !single && c = '\\' then
      match rest with
      | [] => none
      | e :: rest =>
        if isBreak e.char then
          if s.ahead < 3 then none else readQuoted single fuel .hidden f.hiddenBreak rest
        else
          match readEscape e.char rest with
          | some (c, rest) => readQuoted single fuel .word (f.push c) rest
          | none => none
    else readQuoted single fuel .word (f.push c) rest

/-! ### Blocks -/

/-- What becomes of the line breaks at the end of a block. -/
inductive Chomp where
  | strip
  | clip
  | keep
deriving DecidableEq, Repr

/-- The indicators of a block: how it ends and how much more it is indented. -/
structure Header where
  chomp : Chomp
  increment : Nat

/-- The indicator of the end. -/
def chomp? (c : Char) : Option Chomp :=
  if c = '+' then some .keep else if c = '-' then some .strip else none

/-- The indicator of the indentation, which is not zero. -/
def increment? (c : Char) : Option Nat :=
  if '1' ≤ c ∧ c ≤ '9' then some (c.toNat - 0x30) else none

/-- Reads the indicators in either order. -/
def readHeader (t : List Spot) : Option (Header × List Spot) :=
  match t with
  | [] => some (⟨.clip, 0⟩, t)
  | a :: rest =>
    match chomp? a.char, a.char.isDigit with
    | some chomp, _ =>
      match rest with
      | b :: rest' =>
        if b.char.isDigit then do some (⟨chomp, ← increment? b.char⟩, rest')
        else some (⟨chomp, 0⟩, rest)
      | [] => some (⟨chomp, 0⟩, rest)
    | none, true => do
      let increment ← increment? a.char
      match rest with
      | b :: rest' =>
        match chomp? b.char with
        | some chomp => some (⟨chomp, increment⟩, rest')
        | none => some (⟨.clip, increment⟩, rest)
      | [] => some (⟨.clip, increment⟩, rest)
    | none, false => some (⟨.clip, 0⟩, t)

/-- Goes past empty lines and indentation. Gives the greatest column that was reached and the
line breaks, last first. Indentation by a tab is an error; `indent` is zero if it is not known. -/
def blockBreaks (indent : Nat) (most : Nat) (breaks : List Char) :
    List Spot → Option (List Spot × Nat × List Char)
  | [] => some ([], most, breaks)
  | s :: rest =>
    let inside := indent = 0 || s.place.column < indent
    if s.ahead < (if isBreak s.char then 2 else 1) then none
    else if inside && s.char = ' ' then blockBreaks indent most breaks rest
    else
      let most := max most s.place.column
      if inside && s.char = '\t' then none
      else if isBreak s.char then blockBreaks indent most (s.char :: breaks) rest
      else some (s :: rest, most, breaks)

/-- A block under way, everything last first: its text, the break of the last line, further
breaks, and whether the last line began with a gap. -/
structure Block where
  text : List Char
  last : List Char
  more : List Char
  gapBefore : Bool

/-- A line of the block follows. -/
def Block.join (b : Block) (folded gapNow : Bool) : Block :=
  let breaks :=
    if folded && b.last = ['\n'] && !b.gapBefore && !gapNow then
      (if b.more.isEmpty then [' '] else b.more)
    else b.more ++ b.last
  ⟨breaks ++ b.text, [], [], gapNow⟩

/-- Reads the lines of a block. -/
def readLines (folded : Bool) (indent : Nat) :
    Nat → Block → List Spot → Option (List Spot × Block)
  | 0, _, _ => none
  | _, b, [] => some ([], b)
  | fuel + 1, b, s :: rest =>
    if s.place.column ≠ indent then some (s :: rest, b)
    else do
      let b := b.join folded (isGap s.char)
      let line := (s :: rest).takeWhile (!·.endsLine)
      let t := (s :: rest).dropWhile (!·.endsLine)
      if !look 2 t then none
      let text := line.foldl (fun acc s => s.char :: acc) b.text
      let last := (t.head?.map (·.char)).toList
      let (t, _, more) ← blockBreaks indent 0 [] t.tail
      readLines folded indent fuel ⟨text, last, more, b.gapBefore⟩ t

/-- Reads a block behind its indicator; `parent` is the indentation around it. -/
def readBlock (fuel : Nat) (folded : Bool) (parent : Int) (t : List Spot) :
    Option (List Spot × String) := do
  let (header, t) ← readHeader t
  let t ← skipLineEnd? (skipComment (skipGaps t))
  let known := if header.increment = 0 then 0 else (max parent 0).toNat + header.increment
  let (t, most, breaks) ← blockBreaks known 0 [] t
  let indent := if known = 0 then max (max most (parent + 1).toNat) 1 else known
  let (t, b) ← readLines folded indent fuel ⟨[], [], breaks, false⟩ t
  let tail := match header.chomp with
    | .strip => []
    | .clip => b.last
    | .keep => b.more ++ b.last
  some (t, .ofList (tail ++ b.text).reverse)

end Podkeeper.Yaml
