/-
JSON text as a source of values.

What is wanted decides what is wrong: a text where a number is wanted, a list where a flag is
wanted. Failures show in the order of the text, and those of the format come before those of the
value that stands behind them. Lists and objects may be nested 127 deep where their values are
wanted; what is skipped may be nested at will. A record also reads from a list of its fields.
-/

import Podkeeper.Json.Reader
import Podkeeper.Wire.Source

namespace Podkeeper.Json

open Wire

/-- Why a text does not give the wanted value. -/
inductive Refusal where
  /-- The text is not JSON as far as it was read. -/
  | syntaxError (complaint : Complaint)
  /-- The text is JSON and says something else. -/
  | fault (fault : Fault)
deriving DecidableEq, Repr

def Refusal.message : Refusal → String
  | .syntaxError c => c.message
  | .fault f => f.message

/-- A node and how many more lists and objects may be opened from here on. -/
structure Cursor where
  depth : Nat
  node : Node

def Cursor.down (c : Cursor) (n : Node) : Cursor := ⟨c.depth - 1, n⟩

def complain {α : Type} : Except Complaint α → Except Refusal α
  | .ok a => .ok a
  | .error complaint => .error (.syntaxError complaint)

/-- What stands at a node, unless that is not even JSON. -/
def Node.found : Node → Except Refusal Found
  | .null => .ok .null
  | .flag b => .ok (.flag b)
  | .number n => do
    match ← complain n.number with
    | .whole v => .ok (.whole v)
    | .real x => .ok (.fraction x.text)
  | .text s => do .ok (.text (← complain s.text))
  | .list _ _ => .ok .sequence
  | .object _ _ | .keyless _ => .ok .mapping
  | .broken cause => .error (.syntaxError cause.wanted)

/-- The refusal of a node of another kind. -/
def Node.mismatch {α : Type} (n : Node) (expected : String) : Except Refusal α := do
  .error (.fault (.mismatch (← n.found) expected))

/-- Going into a list or an object, which may be too deep already. -/
def Cursor.enter (c : Cursor) : Except Refusal Unit :=
  if c.depth = 0 then .error (.syntaxError .tooDeep) else .ok ()

/-- Going into an object whose first key is no text. -/
def Cursor.enterKeyless {α : Type} (c : Cursor) : Except Refusal α := do
  c.enter
  .error (.syntaxError .keyWanted)

/-- The end of a list or an object whose parts were read. -/
def closed (stop : Option Cause) : Except Refusal Unit :=
  match stop with
  | none => .ok ()
  | some cause => .error (.syntaxError cause.wanted)

/-! ### Single values -/

def Cursor.text (expected : String) (c : Cursor) : Except Refusal String :=
  match c.node with
  | .text s => complain s.text
  | n => n.mismatch expected

def Cursor.flag (c : Cursor) : Except Refusal Bool :=
  match c.node with
  | .flag b => .ok b
  | n => n.mismatch "a boolean"

/-- A whole number within a range. -/
def Cursor.whole (range : Range) (c : Cursor) : Except Refusal Int :=
  match c.node with
  | .number n => do
    match ← complain n.number with
    | .whole v =>
      if range.holds v then .ok v else .error (.fault (.value (.whole v) range.name))
    | .real x => .error (.fault (.mismatch (.fraction x.text) range.name))
  | n => n.mismatch range.name

/-! ### Lists and objects -/

/-- Reads the items of a list in order. -/
def readItems {α : Type} (c : Cursor) (read : Cursor → Except Refusal α) (acc : List α) :
    List Node → Except Refusal (List α)
  | [] => .ok acc.reverse
  | n :: ns => do
    let a ← read (c.down n)
    readItems c read (a :: acc) ns

/-- Reads the members of an object in order, the key before the value. -/
def readMembers {α : Type} (c : Cursor) (read : Cursor → Except Refusal α)
    (acc : List (String × α)) :
    List (Spelling × Node) → Except Refusal (List (String × α))
  | [] => .ok acc.reverse
  | (k, n) :: ms => do
    let key ← complain k.text
    let a ← read (c.down n)
    readMembers c read ((key, a) :: acc) ms

/-- A list of values of one kind. -/
def Cursor.sequence {α : Type} (read : Cursor → Except Refusal α) (c : Cursor) :
    Except Refusal (List α) :=
  match c.node with
  | .list items stop => do
    c.enter
    let as ← readItems c read [] items
    closed stop
    .ok as
  | n => n.mismatch "a sequence"

/-- An object with values of one kind. -/
def Cursor.mapping {α : Type} (read : Cursor → Except Refusal α) (c : Cursor) :
    Except Refusal (List (String × α)) :=
  match c.node with
  | .object members stop => do
    c.enter
    let ms ← readMembers c read [] members
    closed stop
    .ok ms
  | .keyless _ => c.enterKeyless
  | n => n.mismatch "a map"

/-! ### Records -/

/-- A member of an object at its place, its key read. -/
structure Member where
  place : Nat
  key : Except Refusal String
  node : Node

/-- Numbers the members of an object. -/
def numbered (members : List (Spelling × Node)) : List Member :=
  members.zipIdx.map fun (m, place) => ⟨place, complain m.1.text, m.2⟩

/-- The member has one of the names of a field. -/
def Member.isFor (label : Label) (m : Member) : Bool :=
  match m.key with
  | .ok key => label.covers key
  | .error _ => false

/-- What an object holds for a field. -/
def cellOf (c : Cursor) (members : List Member) (label : Label) : Cell Cursor Refusal :=
  match members.filter (·.isFor label) with
  | [] => .absent (members.length + 1) (.fault (.missing label.name))
  | m :: again =>
    .given m.place (c.down m.node)
      (again.head?.map fun m' => (m'.place, .fault (.duplicate label.name)))

/-- The failure of a member that is no field: its key cannot be read, it is not admitted, or the
skipped value is no JSON. -/
def strayFailure (known : String → Bool) (refuse : Option (String → Fault)) (m : Member) :
    Option (Nat × Refusal) :=
  match m.key with
  | .error e => some (m.place, e)
  | .ok key =>
    if known key then none
    else
      match refuse with
      | some fault => some (m.place, .fault (fault key))
      | none => m.node.skip?.map fun complaint => (m.place, .syntaxError complaint)

/-- What remains to be said about an object besides its fields. -/
def rest (known : String → Bool) (refuse : Option (String → Fault)) (members : List Member)
    (stop : Option Cause) : Placed Refusal Unit :=
  match members.findSome? (strayFailure known refuse) with
  | some (place, e) => .failure place e
  | none => Placed.placeAt members.length (closed stop)

/-- What a list holds for the field with a number. -/
def itemOf (c : Cursor) (items : List Node) (stop : Option Cause) (expected : String)
    (place : Nat) : Cell Cursor Refusal :=
  match items[place]? with
  | some n => .given place (c.down n) none
  | none =>
    match stop with
    | some cause => .absent items.length (.syntaxError cause.wanted)
    | none => .absent (items.length + 1) (.fault (.length place expected))

/-- What may follow the last field in a list: the bracket and nothing else. -/
def listRest (items : List Node) (stop : Option Cause) (width : Nat) : Except Refusal Unit :=
  if items.length < width then closed stop
  else if width < items.length then .error (.syntaxError .trailingText)
  else
    match stop with
    | none => .ok ()
    | some .listTrailing => .error (.syntaxError .trailingComma)
    | some .listEnd => .error (.syntaxError .endInList)
    | some _ => .error (.syntaxError .trailingText)

/-- The wording of a record with the number of its fields. -/
def withWidth (name : String) (width : Nat) : String :=
  s!"struct {name} with {width} " ++ if width = 1 then "element" else "elements"

/-- A field that a record does not know, with those that it knows. -/
def unknownField (labels : List Label) (name : String) : Fault :=
  .unknownField name (labels.map (·.name))

/-- A record from the members of an object. -/
def Cursor.recordOfMembers {α : Type} (style : Style) (r : Record Cursor (Except Refusal) α)
    (c : Cursor) (members : List Member) (stop : Option Cause) : Except Refusal α :=
  let refuse := if style.closed then some (unknownField r.labels) else none
  Placed.forget <|
    r.build (fun _ label default read => (cellOf c members label).read default read)
      <* rest r.knows refuse members stop

/-- A record from a list of its fields. -/
def Cursor.recordOfItems {α : Type} (isFull : Bool) (name : String)
    (r : Record Cursor (Except Refusal) α) (c : Cursor) (items : List Node) (stop : Option Cause) :
    Except Refusal α :=
  let expected := withWidth name r.width
  Placed.forget <|
    r.build (fun i _ default read =>
        (itemOf c items stop expected i).read (if isFull then none else default) read)
      <* Placed.placeAt items.length (listRest items stop r.width)

/-- A record, from an object or from a list of its fields. -/
def Cursor.record {α : Type} (style : Style) (name : String) (r : Record Cursor (Except Refusal) α)
    (c : Cursor) : Except Refusal α :=
  match c.node with
  | .object members stop => do
    c.enter
    c.recordOfMembers style r (numbered members) stop
  | .keyless _ => c.enterKeyless
  | .list items stop =>
    if style.listing = .never then Node.mismatch (.list items stop) ("struct " ++ name)
    else do
      c.enter
      c.recordOfItems (style.listing = .full) name r items stop
  | n => n.mismatch ("struct " ++ name)

/-! ### Choices -/

/-- One of a few words: as a text, or as the only key of an object with no value. -/
def Cursor.choice (known : List String) (c : Cursor) : Except Refusal String :=
  let variant (name : String) : Except Refusal String :=
    if known.contains name then .ok name else .error (.fault (.unknownVariant name known))
  match c.node with
  | .text s => do variant (← complain s.text)
  | .object members stop => do
    c.enter
    match members with
    | (k, n) :: more =>
      let name ← variant (← complain k.text)
      match n with
      | .null =>
        match more, stop with
        | [], none => .ok name
        | [], some .objectEnd => .error (.syntaxError .endInObject)
        | _, _ => .error (.syntaxError .valueWanted)
      | n => n.mismatch "unit"
    | [] =>
      match stop with
      | some .objectEnd => .error (.syntaxError .endInValue)
      | _ => .error (.syntaxError .valueWanted)
  | .keyless first => do
    c.enter
    first.mismatch "variant identifier"
  | .broken .valueEnd => .error (.syntaxError .endInValue)
  | .broken .colon => .error (.syntaxError .colonWanted)
  | .broken .objectEnd => .error (.syntaxError .endInObject)
  | _ => .error (.syntaxError .valueWanted)

/-! ### Any value -/

/-- Any value at all, lists and objects nested at most `depth` deep. -/
def opaqueValue : Nat → Node → Except Refusal Opaque
  | _, .null => .ok .null
  | _, .flag b => .ok (.flag b)
  | _, .number n => do
    match ← complain n.number with
    | .whole v => .ok ((Opaque.whole? v).getD .null)
    | .real x => .ok (.real x)
  | _, .text s => do .ok (.text (← complain s.text))
  | 0, .list _ _ | 0, .object _ _ | 0, .keyless _ => .error (.syntaxError .tooDeep)
  | depth + 1, .list items stop => do
    let as ← readItems ⟨0, .null⟩ (fun c => opaqueValue depth c.node) [] items
    closed stop
    .ok (.list as)
  | depth + 1, .object members stop => do
    let ms ← readMembers ⟨0, .null⟩ (fun c => opaqueValue depth c.node) [] members
    closed stop
    .ok (.object (KeyMap.ofList ms))
  | _ + 1, .keyless _ => .error (.syntaxError .keyWanted)
  | _, .broken cause => .error (.syntaxError cause.wanted)

/-- Any value at all at a cursor. -/
def Cursor.opaqueNode (c : Cursor) : Except Refusal Opaque := opaqueValue c.depth c.node

/-- A value, unless the node is the word for no value. -/
def Cursor.option {α : Type} (read : Cursor → Except Refusal α) (c : Cursor) :
    Except Refusal (Option α) :=
  match c.node with
  | .null => .ok none
  | _ => (read c).map some

instance : Source Cursor (Except Refusal) where
  refuse f := .error (.fault f)
  attempt e := .ok e.toOption
  option := Cursor.option
  textCalled := Cursor.text
  flag := Cursor.flag
  whole := Cursor.whole
  sequence := Cursor.sequence
  mapping := Cursor.mapping
  record := Cursor.record
  choice := Cursor.choice
  opaqueValue := Cursor.opaqueNode

/-! ### Whole texts -/

/-- How many lists and objects may enclose each other. -/
def maxDepth : Nat := 127

/-- The value of a text, which holds nothing else. -/
def decode {α : Type} (read : Cursor → Except Refusal α) (bytes : Bytes) : Except Refusal α := do
  let d := Json.read bytes
  let a ← read ⟨maxDepth, d.root⟩
  if d.surplus then .error (.syntaxError .trailingText) else .ok a

end Podkeeper.Json
