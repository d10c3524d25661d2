/-
YAML as a source of values.

A value is read where its parts stand in the document, and an alias is read where its anchor
stands. What is wanted decides how a plain scalar is taken: any scalar is a text. A fault says on
which path from the root it was found; that path is the one of the innermost value that knows
its own place.

Few aliases can stand for very many values, so it is counted how often they are followed, and
there is a limit for a whole document. What is skipped follows none.
-/

import Podkeeper.Wire.Source
import Podkeeper.Yaml.Core
import Podkeeper.Yaml.Document

namespace Podkeeper.Yaml

open Wire

/-! ### Paths -/

/-- A step from a value to one within it. -/
inductive Step where
  | key (name : String)
  | item (index : Nat)
  /-- The value of a key that is no scalar. -/
  | unknown
deriving DecidableEq, Repr

/-- The steps from the root, last first. -/
abbrev Path := List Step

/-- What stands before a key on a path. -/
def Path.lead (parent : String) (isRoot : Bool) : String := if isRoot then "" else parent ++ "."

def Path.text : Path → String
  | [] => "."
  | .key name :: parent => Path.lead (Path.text parent) parent.isEmpty ++ name
  | .item index :: parent => s!"{Path.text parent}[{index}]"
  | .unknown :: parent => Path.lead (Path.text parent) parent.isEmpty ++ "?"

/-! ### Refusals -/

/-- Why a text does not give the wanted value. -/
inductive Refusal where
  /-- The text is not YAML as far as it was read, or is nested too deep. -/
  | unreadable
  /-- The text says something else; the path, where it is known. -/
  | fault (path : Option Path) (fault : Fault)
deriving DecidableEq, Repr

namespace Refusal

/-- The wording of a refusal; what is no YAML has none of its own. -/
def message? : Refusal → Option String
  | .unreadable => none
  | .fault (some (s :: path)) f => some (Path.text (s :: path) ++ ": " ++ f.message)
  | .fault _ f => some f.message

/-- Says where a fault was found, unless that is known. -/
def locate (path : Path) : Refusal → Refusal
  | .fault none f => .fault (some path) f
  | r => r

end Refusal

/-! ### Readings -/

/-- A reading; the number says how often aliases may still be followed. -/
abbrev Reading := ExceptT Refusal (StateM Nat)

namespace Reading

/-- Says where the faults of a reading are found. -/
def located {α : Type} (path : Path) (r : Reading α) : Reading α :=
  r.adapt (Refusal.locate path)

/-- A fault at a place that is not known yet. -/
def fail {α : Type} (f : Fault) : Reading α := throw (.fault none f)

/-- What a reading gives, if it succeeds; nothing is counted. -/
def attempt {α : Type} (r : Reading α) : Reading (Option α) :=
  ExceptT.mk fun n => (.ok (r.run n).1.toOption, n)

/-- Counts that an alias is followed. -/
def spend : Reading Unit := do
  match ← get with
  | 0 => throw .unreadable
  | n + 1 => set n

end Reading

open Reading

/-! ### Cursors -/

/-- A place in a document: the number of a part, the path to it, and how many more sequences and
mappings may be opened from here on. -/
structure Cursor where
  doc : Document
  pos : Nat
  path : Path
  depth : Nat

namespace Cursor

/-- The number of the part that an alias stands for. -/
def aim (d : Document) (anchor : Nat) : Nat :=
  ((d.anchors.find? (·.1 == anchor)).map (·.2)).getD d.parts.size

/-- The number of the part to read, and the part. -/
def target (c : Cursor) : Reading (Nat × Part) := do
  let i ←
    match c.doc.part? c.pos with
    | some (.alias anchor) => do
      spend
      pure (aim c.doc anchor)
    | _ => pure c.pos
  match c.doc.part? i with
  | some p => return (i, p)
  | none => throw .unreadable

/-- The part stands for no value: there is no text, or an empty plain scalar. -/
def isBlank : Part → Bool
  | .nothing => true
  | .scalar _ text style => text == "" && style == .plain
  | _ => false

def found : Part → Reading Found
  | .scalar tag text style =>
    match meaning tag text style with
    | .ok m => return m.found
    | .error f => fail f
  | .sequence _ => return .sequence
  | .mapping _ => return .mapping
  | _ => throw .unreadable

/-- The refusal of a part of another kind. -/
def mismatch {α : Type} (p : Part) (expected : String) : Reading α := do
  fail (.mismatch (← found p) expected)

/-! ### Scalars -/

/-- A text: any scalar as it is written. -/
def text (expected : String) (c : Cursor) : Reading String := do
  let (_, p) ← c.target
  located c.path <|
    match p with
    | .scalar _ text _ => return text
    | p => mismatch p expected

def flag (c : Cursor) : Reading Bool := do
  let (_, p) ← c.target
  located c.path <|
    match p with
    | .scalar tag text style =>
      match if mayBe "bool" tag style then flag? text else none with
      | some b => return b
      | none => mismatch p "a boolean"
    | p => mismatch p "a boolean"

/-- A number of 64 bits, signed if the range has numbers below zero. -/
def number? (range : Range) (text : String) : Option Int :=
  if range.low < 0 then (whole? text).filter Range.i64.holds
  else ((unsigned? text).map Int.ofNat).filter Range.u64.holds

/-- A whole number within a range. -/
def whole (range : Range) (c : Cursor) : Reading Int := do
  let (_, p) ← c.target
  located c.path <|
    match p with
    | .scalar tag text style =>
      match if mayBe "int" tag style then number? range text else none with
      | some n => if range.holds n then return n else fail (.value (.whole n) range.name)
      | none => mismatch p range.name
    | p => mismatch p range.name

/-- The part stands for no value: it is blank or says so. A tag that says so needs the word. -/
def isNull : Part → Reading Bool
  | .nothing => return true
  | .scalar tag text .plain =>
    match tag with
    | none => return text == "" || isNullWord text
    | some tag =>
      if tag ≠ coreTag "null" then return false
      else if isNullWord text then return true
      else fail (.value (.text text) "null")
  | _ => return false

/-- A value, unless the part stands for none. An alias is followed only once. -/
def option {α : Type} (read : Cursor → Reading α) (c : Cursor) : Reading (Option α) := do
  let (i, p) ← c.target
  if ← isNull p then return none else some <$> read { c with pos := i }

/-! ### Sequences and mappings -/

/-- Going into a sequence or a mapping, which may be too deep already. -/
def enter (c : Cursor) : Reading Unit := if c.depth = 0 then throw .unreadable else return ()

/-- The place of a part directly within. -/
def down (c : Cursor) (step : Step) (pos : Nat) : Cursor :=
  ⟨c.doc, pos, step :: c.path, c.depth - 1⟩

/-- The end of a sequence or a mapping. -/
def closed (isClosed : Bool) : Except Refusal Unit :=
  if isClosed then .ok () else .error .unreadable

/-- The parts of a mapping as keys and values; the last value may not be there. -/
def pairs (missing : Nat) : List Nat → List (Nat × Nat)
  | key :: value :: rest => (key, value) :: pairs missing rest
  | [key] => [(key, missing)]
  | [] => []

/-- The keys and the values directly within the mapping at a number. -/
def membersAt (d : Document) (i : Nat) : List (Nat × Nat) × Bool :=
  let (parts, isClosed) := d.children i
  (pairs d.parts.size parts, isClosed)

/-- The step to the value of a key. -/
def stepOf (d : Document) (key : Nat) : Step :=
  match d.part? key with
  | some (.scalar _ text _) => .key text
  | _ => .unknown

def keyText (c : Cursor) (expected : String) (key : Nat) : Reading String :=
  text expected { c with pos := key }

/-- Reads the items of a sequence in order. -/
def readItems {α : Type} (c : Cursor) (read : Cursor → Reading α) (acc : List α)
    (index : Nat) : List Nat → Reading (List α)
  | [] => return acc.reverse
  | pos :: rest => do
    let a ← read (c.down (.item index) pos)
    readItems c read (a :: acc) (index + 1) rest

/-- Reads the members of a mapping in order, the key before the value; messages call its first key
differently. -/
def readMembers {α : Type} (c : Cursor) (read : Cursor → Reading α) (expected : String)
    (acc : List (String × α)) : List (Nat × Nat) → Reading (List (String × α))
  | [] => return acc.reverse
  | (key, value) :: rest => do
    let k ← c.keyText expected key
    let a ← read (c.down (stepOf c.doc key) value)
    readMembers c read "a string" ((k, a) :: acc) rest

/-- The items of the sequence at a number. -/
def itemsAt {α : Type} (c : Cursor) (read : Cursor → Reading α) (i : Nat) : Reading (List α) := do
  c.enter
  let (parts, isClosed) := c.doc.children i
  let as ← readItems c read [] 0 parts
  closed isClosed
  return as

/-- The members of the mapping at a number. -/
def entriesAt {α : Type} (c : Cursor) (read : Cursor → Reading α) (expected : String) (i : Nat) :
    Reading (List (String × α)) := do
  c.enter
  let (members, isClosed) := membersAt c.doc i
  let ms ← readMembers c read expected [] members
  closed isClosed
  return ms

/-- A sequence of values of one kind. -/
def sequence {α : Type} (read : Cursor → Reading α) (c : Cursor) : Reading (List α) := do
  let (i, p) ← c.target
  located c.path <|
    match p with
    | .sequence _ => c.itemsAt read i
    | p => if isBlank p then return [] else mismatch p "a sequence"

/-- A mapping with values of one kind. -/
def mapping {α : Type} (read : Cursor → Reading α) (c : Cursor) :
    Reading (List (String × α)) := do
  let (i, p) ← c.target
  located c.path <|
    match p with
    | .mapping _ => c.entriesAt read "a string" i
    | p => if isBlank p then return [] else mismatch p "a map"

/-! ### Records -/

/-- What came of a part of a record that was read on its own, and for places in the text how often
aliases were followed there. -/
structure Share (α : Type) where
  spent : List (Nat × Nat)
  outcome : Placed Refusal α

/-- The reading of a part of a record, given how often aliases may be followed. -/
def Survey (α : Type) := Nat → Share α

namespace Survey

instance : Applicative Survey where
  pure a := fun _ => ⟨[], pure a⟩
  seq f a := fun n => ⟨(f n).spent ++ (a () n).spent, (f n).outcome <*> (a () n).outcome⟩

def known {α : Type} (outcome : Placed Refusal α) : Survey α := fun _ => ⟨[], outcome⟩

/-- Reads what a mapping holds for a field. -/
def field {α : Type} (cell : Cell Cursor Refusal) (default : Option α)
    (read : Cursor → Reading α) : Survey α := fun n =>
  match cell with
  | .given place c _ =>
    let (result, left) := (read c).run n
    ⟨[(place, n - left)], cell.read default fun _ => result⟩
  | .absent _ missing => ⟨[], cell.read default fun _ => .error missing⟩

/-- All of a record: what stands behind the place where it fails was not read. -/
def toReading {α : Type} (s : Survey α) : Reading α := ExceptT.mk fun n =>
  let share := s n
  let spent := match share.outcome with
    | .value _ => share.spent
    | .failure place _ => share.spent.filter (·.1 ≤ place)
  let total := spent.foldl (fun total (_, times) => total + times) 0
  if n < total then (.error .unreadable, 0) else (share.outcome.forget, n - total)

end Survey

/-- A member of a mapping at its place: its key, read, and how often aliases were followed for
that, and where its value is. -/
structure Member where
  place : Nat
  key : Except Refusal String
  spent : Nat
  step : Step
  pos : Nat

/-- Numbers the members of a mapping and reads their keys. -/
def numbered (c : Cursor) (members : List (Nat × Nat)) (n : Nat) : List Member :=
  members.zipIdx.map fun ((key, value), place) =>
    let (text, left) := (c.keyText "field identifier" key).run n
    ⟨place, text, n - left, stepOf c.doc key, value⟩

/-- The member has one of the names of a field. -/
def Member.isFor (label : Label) (m : Member) : Bool :=
  match m.key with
  | .ok key => label.covers key
  | .error _ => false

/-- What a mapping holds for a field. -/
def cellOf (c : Cursor) (members : List Member) (label : Label) : Cell Cursor Refusal :=
  match members.filter (·.isFor label) with
  | [] => .absent (members.length + 1) (.fault none (.missing label.name))
  | m :: again =>
    .given m.place (c.down m.step m.pos)
      (again.head?.map fun m' => (m'.place, .fault none (.duplicate label.name)))

/-- The failure of a member that is no field: its key cannot be read, it is not admitted, or the
skipped value does not end. -/
def strayFailure (d : Document) (known : String → Bool) (refuse : Option (String → Fault))
    (m : Member) : Option (Nat × Refusal) :=
  match m.key with
  | .error e => some (m.place, e)
  | .ok key =>
    if known key then none
    else
      match refuse with
      | some fault => some (m.place, .fault none (fault key))
      | none => if (d.behind? m.pos).isSome then none else some (m.place, .unreadable)

/-- What remains to be said about a mapping besides its fields. -/
def rest (d : Document) (known : String → Bool) (refuse : Option (String → Fault))
    (members : List Member) (isClosed : Bool) : Placed Refusal Unit :=
  match members.findSome? (strayFailure d known refuse) with
  | some (place, e) => .failure place e
  | none => Placed.placeAt members.length (closed isClosed)

/-- A record from the members of a mapping. -/
def recordOfMembers {α : Type} (style : Wire.Style) (r : Record Cursor Reading α) (c : Cursor)
    (members : List (Nat × Nat)) (isClosed : Bool) : Reading α :=
  let refuse (name : String) : Fault := .unknownField name (r.labels.map (·.name))
  Survey.toReading fun n =>
    let members := c.numbered members n
    let survey : Survey α :=
      r.build (fun _ label default read => .field (cellOf c members label) default read)
        <* .known (rest c.doc r.knows (if style.closed then some refuse else none) members isClosed)
    let share := survey n
    { share with spent := members.map (fun m => (m.place, m.spent)) ++ share.spent }

/-- A record, from a mapping of its fields. -/
def record {α : Type} (style : Wire.Style) (name : String) (r : Record Cursor Reading α)
    (c : Cursor) : Reading α := do
  let (i, p) ← c.target
  located c.path <|
    match p with
    | .mapping _ => do
      c.enter
      let (members, isClosed) := membersAt c.doc i
      c.recordOfMembers style r members isClosed
    | p =>
      if isBlank p then c.recordOfMembers style r [] true else mismatch p ("struct " ++ name)

/-! ### Choices -/

def tagOf : Part → Option Bytes
  | .scalar tag _ _ | .sequence tag | .mapping tag => tag
  | _ => none

/-- The part that a tag stands before says nothing more. -/
def unit (c : Cursor) : Part → Reading Unit
  | .nothing => return ()
  | .scalar _ text style =>
    if style = .plain ∧ (text = "" ∨ isNullWord text) then return ()
    else located c.path (fail (.value (.text text) "null"))
  | p => located c.path (mismatch p "unit")

/-- One of a few words: as a scalar, or as the tag of nothing. -/
def choice (known : List String) (c : Cursor) : Reading String := do
  let (_, p) ← c.target
  let variant (name : String) : Reading String :=
    if known.contains name then return name else fail (.unknownVariant name known)
  match tagName? (tagOf p) with
  | some name => do
    let name ← variant name
    c.unit p
    return name
  | none =>
    located c.path <|
      match p with
      | .scalar _ text _ => variant text
      | p => mismatch p "a YAML tag starting with '!'"

/-! ### Any value -/

/-- What a scalar stands for, as a value. A whole number of more than 64 bits is none that can be
told. -/
def opaqueScalar (tag : Option Bytes) (text : String) (style : Style) : Reading Json.Opaque :=
  match meaning tag text style with
  | .error f => fail f
  | .ok m =>
    match m with
    | .null => return .null
    | .flag b => return .flag b
    | .whole n =>
      match Json.Opaque.whole? n with
      | some v => return v
      | none => throw .unreadable
    | .real (.finite x) => return .real x
    | .real (.special _) => return .null
    | .text s => return .text s

/-- Any value at all, sequences and mappings nested at most `depth` deep. -/
def opaqueAt : Nat → Cursor → Reading Json.Opaque
  | depth, c => do
    let (i, p) ← c.target
    located c.path <|
      match tagName? (tagOf p) with
      | some _ => fail (.mismatch .tagged "any valid JSON value")
      | none =>
        match p, depth with
        | .scalar tag text style, _ => opaqueScalar tag text style
        | .nothing, _ => return .null
        | .sequence _, depth + 1 => .list <$> c.itemsAt (opaqueAt depth) i
        | .mapping _, depth + 1 =>
          (fun ms => .object (KeyMap.ofList ms)) <$> c.entriesAt (opaqueAt depth) "a string key" i
        | _, _ => throw .unreadable

/-- Any value at all at a place. -/
def opaqueValue (c : Cursor) : Reading Json.Opaque := opaqueAt c.depth c

instance : Source Cursor Reading where
  refuse := fail
  attempt := attempt
  option := option
  textCalled := text
  flag := flag
  whole := whole
  sequence := sequence
  mapping := mapping
  record := record
  choice := choice
  opaqueValue := opaqueValue

end Cursor

/-! ### Whole texts -/

/-- How many sequences and mappings may enclose each other. -/
def maxDepth : Nat := 128

/-- How often aliases may be followed in a document. -/
def maxJumps (d : Document) : Nat := 100 * d.parts.size

/-- The value of a text, which holds one document. -/
def decode {α : Type} (read : Cursor → Reading α) (bytes : Bytes) : Except Refusal α := do
  let d := Document.ofBytes bytes
  let a ← ((read ⟨d, 0, [], maxDepth⟩).run (maxJumps d)).1
  if d.complete then .ok a else .error .unreadable

end Podkeeper.Yaml
