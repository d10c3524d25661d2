/-
Tokens of YAML.

Tokens are the indicators, names and scalars of a stream, and the ends of blocks, which only
their indentation shows. A key is recognised when its colon comes: until then its beginning is
remembered, and the token that announces it is put in before the tokens that were read since.
Tokens are therefore queued, and one is given out when no key can begin with it any more.

Tags are bytes, because their escapes may stand for bytes that are no text. A NUL ends them.
-/

import Podkeeper.Yaml.Scalar

namespace Podkeeper.Yaml

inductive Token where
  | streamEnd
  | version (major minor : Nat)
  | tagDirective (handle : String) (start : Bytes)
  | documentStart
  | documentEnd
  | blockSequenceStart
  | blockMappingStart
  | blockEnd
  | flowSequenceStart
  | flowSequenceEnd
  | flowMappingStart
  | flowMappingEnd
  | blockEntry
  | flowEntry
  | key
  | value
  | alias (name : String)
  | anchor (name : String)
  | tag (handle : String) (suffix : Bytes)
  | scalar (text : String) (style : Style)
deriving DecidableEq, Repr

/-- The beginning of what may turn out to be a key: the number of its first token, its place, how
many flow collections are open around it, and whether only a key may stand there. -/
structure KeyStart where
  number : Nat
  place : Place
  depth : Nat
  required : Bool

/-- The tokens of a stream: what was not read yet, tokens that were read and not given out, and
what governs the next one. -/
structure Tokens where
  rest : List Spot
  /-- The place behind the last character. -/
  finish : Place
  /-- More than the number of characters. -/
  fuel : Nat
  queue : List Token
  /-- How many tokens were given out. -/
  given : Nat
  ended : Bool
  indent : Int
  /-- The indentations around the current one. -/
  outer : List Int
  keyAllowed : Bool
  /-- How many flow collections are open. -/
  depth : Nat
  /-- The possible keys, innermost first: at most one in each flow collection that is open, and one
  in the block around them. -/
  keys : List KeyStart

namespace Tokens

/-- The beginning of a stream, with the characters that can be read. -/
def start (text : List Char × Bool) : Tokens :=
  let (spots, finish) := spots text
  ⟨spots, finish, spots.length + 2, [], 0, false, -1, [], true, 0, []⟩

/-- The place of the next character. -/
def place (t : Tokens) : Place := (t.rest.head?.map (·.place)).getD t.finish

def inFlow (t : Tokens) : Bool := 0 < t.depth

def push (t : Tokens) (token : Token) : Tokens := { t with queue := t.queue ++ [token] }

/-- Adds a token before those from a number on. -/
def insertAt (t : Tokens) (number : Nat) (token : Token) : Tokens :=
  let n := number - t.given
  { t with queue := t.queue.take n ++ token :: t.queue.drop n }

def skip (t : Tokens) (n : Nat) : Tokens := { t with rest := t.rest.drop n }

/-! ### Keys -/

/-- A key ends on its line and within 1024 bytes. -/
def isStale (now : Place) (k : KeyStart) : Bool :=
  k.place.line < now.line || k.place.index + 1024 < now.index

/-- Gives up keys that have become too long; one that had to be a key is an error. -/
def dropStale (t : Tokens) : Option Tokens :=
  let now := t.place
  if t.keys.any fun k => isStale now k && k.required then none
  else some { t with keys := t.keys.filter fun k => !isStale now k }

/-- The possible key in the innermost collection, and the others. -/
def keyHere? (t : Tokens) : Option (KeyStart × List KeyStart) :=
  match t.keys with
  | k :: keys => if k.depth = t.depth then some (k, keys) else none
  | [] => none

/-- Gives up the key in the innermost collection. -/
def dropKey (t : Tokens) : Option Tokens :=
  match t.keyHere? with
  | some (k, keys) => if k.required then none else some { t with keys := keys }
  | none => some t

/-- A key may begin here. -/
def saveKey (t : Tokens) : Option Tokens :=
  if t.keyAllowed then do
    let required := !t.inFlow && t.indent == t.place.column
    let key : KeyStart := ⟨t.given + t.queue.length, t.place, t.depth, required⟩
    let t ← t.dropKey
    some { t with keys := key :: t.keys }
  else some t

/-- Whether a key may begin next. -/
def allowKey (t : Tokens) (allowed : Bool) : Tokens := { t with keyAllowed := allowed }

/-! ### Indentation -/

/-- Ends the blocks that are indented further than a column. -/
def closeBlocks (column : Int) : List Int → Int → List Token → List Int × Int × List Token
  | [], indent, ends => ([], indent, ends)
  | i :: outer, indent, ends =>
    if column < indent then closeBlocks column outer i (.blockEnd :: ends)
    else (i :: outer, indent, ends)

/-- Ends the blocks that are indented further than a column, outside of flow collections. -/
def unroll (t : Tokens) (column : Int) : Tokens :=
  if t.inFlow then t
  else
    let (outer, indent, ends) := closeBlocks column t.outer t.indent []
    { t with outer := outer, indent := indent, queue := t.queue ++ ends }

/-- Begins a block at a column, if it is indented further than the one around it. The token goes
before those from a number on. -/
def roll (t : Tokens) (column : Nat) (number : Nat) (token : Token) : Tokens :=
  if !t.inFlow && t.indent < column then
    { t.insertAt number token with outer := t.indent :: t.outer, indent := column }
  else t

/-- The number of the next token. -/
def nextNumber (t : Tokens) : Nat := t.given + t.queue.length

/-! ### Gaps and comments -/

/-- Goes to the next token. Tabs count as gaps within flow collections and where no key may
begin; in a block a key may begin on a new line. A byte order mark may begin any line. -/
def toNext (inFlow : Bool) : Bool → Bool → List Spot → Option (Bool × List Spot)
  | allowed, _, [] => some (allowed, [])
  | allowed, inComment, s :: rest =>
    let c := s.char
    if s.ahead < (if isBreak c then 2 else 1) then none
    else if isBreak c then toNext inFlow (allowed || !inFlow) false rest
    else if inComment then toNext inFlow allowed true rest
    else if c = ' ' || (c = '\t' && (inFlow || !allowed)) then toNext inFlow allowed false rest
    else if c = '#' then toNext inFlow allowed true rest
    else if s.place.column = 0 && c = '\uFEFF' then toNext inFlow allowed false rest
    else some (allowed, s :: rest)

/-! ### Directives, anchors and tags -/

/-- A number of one to nine digits. -/
def readNumber (t : List Spot) : Option (Nat × List Spot) :=
  let digits := t.takeWhile (·.char.isDigit)
  if digits.isEmpty || 9 < digits.length then none
  else some (digits.foldl (fun n s => n * 10 + (s.char.toNat - 0x30)) 0, t.drop digits.length)

def textOf (spots : List Spot) : String := .ofList (spots.map (·.char))

def readName (t : List Spot) : String × List Spot :=
  let name := t.takeWhile (isNameChar ·.char)
  (textOf name, t.drop name.length)

/-- The handle of a tag, with its exclamation marks. -/
def readHandle (directive : Bool) (t : List Spot) : Option (String × List Spot) :=
  if !startsWith t '!' then none
  else
    let (name, rest) := readName t.tail
    if startsWith rest '!' then some ("!" ++ name ++ "!", rest.tail)
    else if directive && name != "" then none
    else some ("!" ++ name, rest)

/-- A character of a tag; some count only between angle brackets. -/
def isTagChar (bracketed : Bool) (c : Char) : Bool :=
  isNameChar c || ";/?:@&=+$.!~*'()".toList.contains c ||
    (bracketed && (c = ',' || c = '[' || c = ']'))

/-- The bytes of escapes such as `%C3%BC`, as many as they stand side by side up to the first
character they make. -/
def readOctet (t : List Spot) : Option (UInt8 × List Spot) := do
  match t with
  | p :: a :: b :: rest =>
    if p.char ≠ '%' then none
    some (.ofNat ((← Digit.hex? a.char) * 16 + (← Digit.hex? b.char)), rest)
  | _ => none

/-- Further bytes of a character. -/
def readOctets (acc : Bytes) : Nat → List Spot → Option (Bytes × List Spot)
  | 0, t => some (acc, t)
  | n + 1, t => do
    let (b, rest) ← readOctet t
    if b &&& 0xC0 = 0x80 then readOctets (b :: acc) n rest else none

/-- The bytes of a character that is written as escapes, added to others, the last first. Only
their number is judged. -/
def readEscaped (acc : Bytes) (t : List Spot) : Option (Bytes × List Spot) := do
  let (b, rest) ← readOctet t
  readOctets (b :: acc) ((← announced? b) - 1) rest

/-- The rest of a tag; `acc` holds its bytes, last first. -/
def readTagText (bracketed : Bool) : Nat → Bytes → List Spot → Option (Bytes × List Spot)
  | 0, acc, t => some (acc.reverse, t)
  | fuel + 1, acc, t =>
    match t with
    | [] => some (acc.reverse, [])
    | s :: rest =>
      if s.char = '%' then do
        let (acc, rest) ← readEscaped acc t
        readTagText bracketed fuel acc rest
      else if isTagChar bracketed s.char then
        readTagText bracketed fuel (.ofNat s.char.toNat :: acc) rest
      else some (acc.reverse, t)

/-- The part of a tag that counts: a NUL ends it. -/
def cut (tag : Bytes) : Bytes := tag.takeWhile (· ≠ 0)

/-- A directive behind its percent sign. -/
def readDirective (fuel : Nat) (t : List Spot) : Option (Token × List Spot) := do
  let (name, t) := readName t
  if !isBoundary t then none
  let (token, t) ←
    if name = "YAML" then do
      let (major, t) ← readNumber (skipGaps t)
      if !startsWith t '.' then none
      let (minor, t) ← readNumber t.tail
      some (Token.version major minor, t)
    else if name = "TAG" then do
      let (handle, t) ← readHandle true (skipGaps t)
      if !t.head?.any (isGap ·.char) then none
      let t := skipGaps t
      let (start, rest) ← readTagText true fuel [] t
      if start.isEmpty || !isBoundary rest then none
      some (.tagDirective handle (cut start), rest)
    else none
  some (token, ← skipLineEnd? (skipComment (skipGaps t)))

/-- The name of an anchor or an alias. -/
def readAnchor (t : List Spot) : Option (String × List Spot) :=
  let (name, rest) := readName t
  if name != "" && (isBoundary rest || rest.head?.any fun s =>
    "?:,]\x7d%@`".toList.contains s.char) then some (name, rest) else none

/-- A tag: its handle and its suffix. A tag that is but an exclamation mark has no handle. -/
def readTag (fuel : Nat) (inFlow : Bool) (t : List Spot) : Option (Token × List Spot) := do
  let (handle, suffix, rest) ←
    match t with
    | _ :: b :: rest =>
      if b.char = '<' then do
        let (suffix, rest) ← readTagText true fuel [] rest
        if suffix.isEmpty || !startsWith rest '>' then none
        some ("", cut suffix, rest.tail)
      else readShort
    | _ => readShort
  if isBoundary rest || (inFlow && startsWith rest ',') then some (.tag handle suffix, rest)
  else none
where
  /-- A tag that is not between angle brackets. -/
  readShort : Option (String × Bytes × List Spot) := do
    let (handle, rest) ← readHandle false t
    if 1 < handle.length && handle.endsWith "!" then
      let (suffix, rest) ← readTagText false fuel [] rest
      if suffix.isEmpty then none else some (handle, cut suffix, rest)
    else
      let (suffix, rest) ← readTagText false fuel (Utf8.ofString handle).tail.reverse rest
      let suffix := cut suffix
      if suffix.isEmpty then some ("", [0x21], rest) else some ("!", suffix, rest)

/-! ### The next token -/

/-- Ends the stream: everything that is open ends on a line of its own. -/
def fetchEnd (t : Tokens) : Option Tokens := do
  let finish := if t.finish.column = 0 then t.finish else ⟨t.finish.index, t.finish.line + 1, 0⟩
  let t ← ({ t with finish := finish }.unroll (-1)).dropKey
  some ({ t with ended := true, keyAllowed := false }.push .streamEnd)

/-- A mark that begins or ends a document. -/
def fetchDocumentMark (t : Tokens) (token : Token) : Option Tokens := do
  let t ← (t.unroll (-1)).dropKey
  some (((t.allowKey false).skip 3).push token)

/-- A bracket that opens a flow collection. -/
def fetchFlowStart (t : Tokens) (token : Token) : Option Tokens := do
  let t ← t.saveKey
  some ((({ t with depth := t.depth + 1 }.allowKey true).skip 1).push token)

/-- A bracket that closes a flow collection. -/
def fetchFlowEnd (t : Tokens) (token : Token) : Option Tokens := do
  let t ← t.dropKey
  some ((({ t with depth := t.depth - 1 }.allowKey false).skip 1).push token)

/-- A comma in a flow collection. -/
def fetchFlowEntry (t : Tokens) : Option Tokens := do
  let t ← t.dropKey
  some (((t.allowKey true).skip 1).push .flowEntry)

/-- A hyphen before an item. -/
def fetchBlockEntry (t : Tokens) : Option Tokens := do
  if !t.inFlow && !t.keyAllowed then none
  let t ← (t.roll t.place.column t.nextNumber .blockSequenceStart).dropKey
  some (((t.allowKey true).skip 1).push .blockEntry)

/-- A question mark before a key. -/
def fetchKey (t : Tokens) : Option Tokens := do
  if !t.inFlow && !t.keyAllowed then none
  let t ← (t.roll t.place.column t.nextNumber .blockMappingStart).dropKey
  some (((t.allowKey !t.inFlow).skip 1).push .key)

/-- A colon: what was remembered becomes a key. -/
def fetchValue (t : Tokens) : Option Tokens :=
  match t.keyHere? with
  | some (k, keys) =>
    let t := { t.insertAt k.number .key with keys := keys }
    let t := t.roll k.place.column k.number .blockMappingStart
    some (((t.allowKey false).skip 1).push .value)
  | none =>
    if !t.inFlow && !t.keyAllowed then none
    else
      let t := t.roll t.place.column t.nextNumber .blockMappingStart
      some (((t.allowKey !t.inFlow).skip 1).push .value)

/-- A token that may begin a key: it is read from the remaining text. -/
def fetchNode (t : Tokens) (read : List Spot → Option (Token × List Spot)) : Option Tokens := do
  let t ← t.saveKey
  let (token, rest) ← read t.rest
  some ({ t with rest := rest, keyAllowed := false }.push token)

def fetchBlock (t : Tokens) (folded : Bool) : Option Tokens := do
  let t ← t.dropKey
  let (rest, text) ← readBlock t.fuel folded t.indent t.rest.tail
  some ({ t with rest := rest, keyAllowed := true }.push
    (.scalar text (if folded then .folded else .literal)))

/-- A plain scalar. A line break behind it allows a key. -/
def fetchPlain (t : Tokens) : Option Tokens := do
  let t ← t.saveKey
  let (rest, f) ← readPlain t.inFlow (t.indent + 1) true true .empty t.rest
  some ({ t with rest := rest, keyAllowed := f.broken }.push (.scalar f.result .plain))

/-- Characters that begin no plain scalar. -/
def indicators : List Char := "-?:,[]\x7b\x7d#&*!|>'\"%@`".toList

/-- A plain scalar may begin here. -/
def mayBePlain (inFlow : Bool) (t : List Spot) : Bool :=
  match t with
  | [] => false
  | s :: rest =>
    let c := s.char
    (!isGap c && !isBreak c && !indicators.contains c) ||
      (c = '-' && !rest.head?.any (isGap ·.char)) ||
      (!inFlow && (c = '?' || c = ':') && !isBoundary rest)

/-- Reads one more token, or ends the stream. -/
def fetch (t : Tokens) : Option Tokens := do
  let (allowed, rest) ← toNext t.inFlow t.keyAllowed false t.rest
  let t ← { t with rest := rest, keyAllowed := allowed }.dropStale
  if !look 4 t.rest then none
  let t := if t.rest.isEmpty then t else t.unroll t.place.column
  match t.rest with
  | [] => t.fetchEnd
  | s :: rest =>
    let c := s.char
    let atColumn0 := s.place.column == 0
    if atColumn0 && c = '%' then do
      let t ← (t.unroll (-1)).dropKey
      let (token, rest) ← readDirective t.fuel rest
      some ({ t with rest := rest, keyAllowed := false }.push token)
    else if atMark '-' t.rest then t.fetchDocumentMark .documentStart
    else if atMark '.' t.rest then t.fetchDocumentMark .documentEnd
    else if c = '[' then t.fetchFlowStart .flowSequenceStart
    else if c = '\x7b' then t.fetchFlowStart .flowMappingStart
    else if c = ']' then t.fetchFlowEnd .flowSequenceEnd
    else if c = '\x7d' then t.fetchFlowEnd .flowMappingEnd
    else if c = ',' then t.fetchFlowEntry
    else if c = '-' && isBoundary rest then t.fetchBlockEntry
    else if c = '?' && (t.inFlow || isBoundary rest) then t.fetchKey
    else if c = ':' && (t.inFlow || isBoundary rest) then t.fetchValue
    else if c = '*' then t.fetchNode fun r => (readAnchor r.tail).map fun (n, r) => (.alias n, r)
    else if c = '&' then t.fetchNode fun r => (readAnchor r.tail).map fun (n, r) => (.anchor n, r)
    else if c = '!' then t.fetchNode (readTag t.fuel t.inFlow)
    else if c = '|' && !t.inFlow then t.fetchBlock false
    else if c = '>' && !t.inFlow then t.fetchBlock true
    else if c = '\'' then t.fetchNode fun r =>
      (readQuoted true t.fuel .opening .empty r.tail).map fun (r, f) =>
        (.scalar f.result .singleQuoted, r)
    else if c = '"' then t.fetchNode fun r =>
      (readQuoted false t.fuel .opening .empty r.tail).map fun (r, f) =>
        (.scalar f.result .doubleQuoted, r)
    else if mayBePlain t.inFlow t.rest then t.fetchPlain
    else none

/-- The first token of the queue may still be the beginning of a key. -/
def isHeld (t : Tokens) : Bool := t.keys.any (·.number == t.given)

/-- Reads tokens until the first one can be given out. -/
def fetchMore : Nat → Tokens → Option Tokens
  | 0, _ => none
  | fuel + 1, t =>
    if t.queue.isEmpty then if t.ended then none else do fetchMore fuel (← t.fetch)
    else do
      let t ← t.dropStale
      if t.isHeld then fetchMore fuel (← t.fetch) else some t

/-- The next token, which stays. -/
def peek (t : Tokens) : Option (Token × Tokens) := do
  let t ← fetchMore (t.fuel + 1) t
  some ((← t.queue.head?), t)

def next (t : Tokens) : Tokens := { t with queue := t.queue.tail, given := t.given + 1 }

end Tokens

end Podkeeper.Yaml
