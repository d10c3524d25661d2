/-
Events of YAML.

Events say what a document consists of: scalars, aliases, and where sequences and mappings begin
and end. They are made from the tokens one at a time. A value that is left out is an empty plain
scalar.
-/

import Podkeeper.Yaml.Token

namespace Podkeeper.Yaml

/-- A part of a document. Anchors and tags are given where the text has them. -/
inductive Event where
  | alias (name : String)
  | scalar (anchor : Option String) (tag : Option Bytes) (text : String) (style : Style)
  | sequenceStart (anchor : Option String) (tag : Option Bytes)
  | sequenceEnd
  | mappingStart (anchor : Option String) (tag : Option Bytes)
  | mappingEnd
deriving DecidableEq, Repr

def Event.blank (anchor : Option String) (tag : Option Bytes) : Event :=
  .scalar anchor tag "" .plain

/-- What must come next. -/
inductive Stage where
  /-- The node of a document. -/
  | root
  /-- The node of a document that begins without a mark. -/
  | bareRoot
  | documentEnd
  | blockItem
  | indentlessItem
  | blockKey
  | blockValue
  | flowItem (first : Bool)
  /-- The key, the value and the end of a pair within a flow sequence. -/
  | pairKey
  | pairValue
  | pairEnd
  | flowKey (first : Bool)
  | flowValue
  /-- The value of a key that stands without a colon. -/
  | flowNoValue
deriving DecidableEq, Repr

/-- The events of a document: the tokens, what must come next and what comes after it, and the
handles of tags. -/
structure Events where
  tokens : Tokens
  stage : Stage
  later : List Stage
  handles : List (String × Bytes)

namespace Events

/-- The handles that need no directive. -/
def standardHandles : List (String × Bytes) :=
  [("!", Utf8.ofString "!"), ("!!", Utf8.ofString "tag:yaml.org,2002:")]

def skip (e : Events) : Events := { e with tokens := e.tokens.next }

/-- What must come next. -/
def goTo (e : Events) (stage : Stage) : Events := { e with stage := stage }

/-- Comes back to a stage after a node. -/
def comeBack (e : Events) (stage : Stage) : Events := { e with later := stage :: e.later }

/-- Goes on with what comes after a node. -/
def pop (e : Events) : Events :=
  match e.later with
  | s :: later => { e with stage := s, later := later }
  | [] => { e with stage := .documentEnd }

/-- The next token, which stays. -/
def peek (e : Events) : Option (Token × Events) := do
  let (token, tokens) ← e.tokens.peek
  some (token, { e with tokens := tokens })

/-! ### Nodes -/

/-- The whole tag of a handle and a suffix. -/
def resolve (e : Events) (handle : String) (suffix : Bytes) : Option Bytes :=
  if handle = "" then some suffix
  else (e.handles.find? fun h => h.1 == handle).map fun h => h.2 ++ suffix

/-- The anchor and the tag before a node, in either order. -/
def properties (e : Events) : Option (Option String × Option Bytes × Events) := do
  let (token, e) ← e.peek
  match token with
  | .anchor name =>
    let (token, e) ← e.skip.peek
    match token with
    | .tag handle suffix => some (some name, some (← e.resolve handle suffix), e.skip)
    | _ => some (some name, none, e)
  | .tag handle suffix =>
    let (token, e) ← e.skip.peek
    match token with
    | .anchor name => some (some name, some (← e.resolve handle suffix), e.skip)
    | _ => some (none, some (← e.resolve handle suffix), e)
  | _ => some (none, none, e)

/-- The beginning of a node. Within flow collections no block may begin; a sequence as the value
of a key need not be indented. -/
def node (block indentless : Bool) (e : Events) : Option (Event × Events) := do
  let (token, e) ← e.peek
  match token with
  | .alias name => some (.alias name, e.skip.pop)
  | _ =>
    let (anchor, tag, e) ← e.properties
    let (token, e) ← e.peek
    match token with
    | .blockEntry =>
      if indentless then some (.sequenceStart anchor tag, e.goTo .indentlessItem)
      else if anchor.isSome || tag.isSome then some (.blank anchor tag, e.pop)
      else none
    | .scalar text style => some (.scalar anchor tag text style, e.skip.pop)
    | .flowSequenceStart => some (.sequenceStart anchor tag, e.skip.goTo (.flowItem true))
    | .flowMappingStart => some (.mappingStart anchor tag, e.skip.goTo (.flowKey true))
    | .blockSequenceStart =>
      if block then some (.sequenceStart anchor tag, e.skip.goTo .blockItem)
      else if anchor.isSome || tag.isSome then some (.blank anchor tag, e.pop)
      else none
    | .blockMappingStart =>
      if block then some (.mappingStart anchor tag, e.skip.goTo .blockKey)
      else if anchor.isSome || tag.isSome then some (.blank anchor tag, e.pop)
      else none
    | _ =>
      if anchor.isSome || tag.isSome then some (.blank anchor tag, e.pop) else none

/-- A node, or an empty scalar before one of the tokens that can follow it. -/
def nodeUnless (ends : Token → Bool) (block indentless : Bool) (next : Stage) (e : Events) :
    Option (Event × Events) := do
  let (token, e) ← e.peek
  if ends token then some (.blank none none, e.goTo next)
  else (e.comeBack next).node block indentless

/-! ### Stages -/

/-- The token follows an item of a block sequence that is left out. -/
def endsItem (t : Token) : Bool := t = .blockEntry || t = .blockEnd

/-- The token follows a key or a value of a block mapping that is left out. -/
def endsPart (t : Token) : Bool := t = .key || t = .value || t = .blockEnd

/-- The token follows an item that is left out in a sequence that is not indented. -/
def endsIndentless (t : Token) : Bool := t = .blockEntry || endsPart t

/-- The token follows an item of a flow sequence that is left out. -/
def endsFlowItem (t : Token) : Bool := t = .flowEntry || t = .flowSequenceEnd

/-- The token follows a value of a flow mapping that is left out. -/
def endsFlowValue (t : Token) : Bool := t = .flowEntry || t = .flowMappingEnd

/-- The token follows a key of a flow mapping that is left out. -/
def endsFlowKey (t : Token) : Bool := t = .value || endsFlowValue t

/-- An item of a block sequence. -/
def blockItem (e : Events) : Option (Event × Events) := do
  let (token, e) ← e.peek
  match token with
  | .blockEntry => e.skip.nodeUnless endsItem true false .blockItem
  | .blockEnd => some (.sequenceEnd, e.skip.pop)
  | _ => none

/-- An item of a sequence that is not indented. -/
def indentlessItem (e : Events) : Option (Event × Events) := do
  let (token, e) ← e.peek
  match token with
  | .blockEntry => e.skip.nodeUnless endsIndentless true false .indentlessItem
  | _ => some (.sequenceEnd, e.pop)

/-- A key of a block mapping. -/
def blockKey (e : Events) : Option (Event × Events) := do
  let (token, e) ← e.peek
  match token with
  | .key => e.skip.nodeUnless endsPart true true .blockValue
  | .blockEnd => some (.mappingEnd, e.skip.pop)
  | _ => none

/-- A value of a block mapping. -/
def blockValue (e : Events) : Option (Event × Events) := do
  let (token, e) ← e.peek
  match token with
  | .value => e.skip.nodeUnless endsPart true true .blockKey
  | _ => some (.blank none none, e.goTo .blockKey)

/-- A comma, unless it is the first entry that comes. -/
def separator (first : Bool) (token : Token) (e : Events) : Option (Token × Events) :=
  if first then some (token, e)
  else
    match token with
    | .flowEntry => e.skip.peek
    | _ => none

/-- An item of a flow sequence. -/
def flowItem (first : Bool) (e : Events) : Option (Event × Events) := do
  let (token, e) ← e.peek
  match token with
  | .flowSequenceEnd => some (.sequenceEnd, e.skip.pop)
  | _ =>
    let (token, e) ← e.separator first token
    match token with
    | .key => some (.mappingStart none none, e.skip.goTo .pairKey)
    | .flowSequenceEnd => some (.sequenceEnd, e.skip.pop)
    | _ => (e.comeBack (.flowItem false)).node false false

/-- The key of a pair within a flow sequence. -/
def pairKey (e : Events) : Option (Event × Events) := do
  let (token, e) ← e.peek
  match token with
  | .value | .flowEntry | .flowSequenceEnd => some (.blank none none, e.skip.goTo .pairValue)
  | _ => (e.comeBack .pairValue).node false false

/-- The value of a pair within a flow sequence. -/
def pairValue (e : Events) : Option (Event × Events) := do
  let (token, e) ← e.peek
  match token with
  | .value => e.skip.nodeUnless endsFlowItem false false .pairEnd
  | _ => some (.blank none none, e.goTo .pairEnd)

/-- A key of a flow mapping. -/
def flowKey (first : Bool) (e : Events) : Option (Event × Events) := do
  let (token, e) ← e.peek
  match token with
  | .flowMappingEnd => some (.mappingEnd, e.skip.pop)
  | _ =>
    let (token, e) ← e.separator first token
    match token with
    | .key => e.skip.nodeUnless endsFlowKey false false .flowValue
    | .flowMappingEnd => some (.mappingEnd, e.skip.pop)
    | _ => (e.comeBack .flowNoValue).node false false

/-- A value of a flow mapping. -/
def flowValue (e : Events) : Option (Event × Events) := do
  let (token, e) ← e.peek
  match token with
  | .value => e.skip.nodeUnless endsFlowValue false false (.flowKey false)
  | _ => some (.blank none none, e.goTo (.flowKey false))

/-- Ends what needs no token of its own, once the next token can be read. -/
def without (event : Event) (next : Stage) (e : Events) : Option (Event × Events) := do
  let (_, e) ← e.peek
  some (event, e.goTo next)

/-- The node of a document, which may be left out before a mark or a directive. -/
def root (e : Events) : Option (Event × Events) :=
  e.nodeUnless (fun
    | .version _ _ | .tagDirective _ _ | .documentStart | .documentEnd | .streamEnd => true
    | _ => false) true false .documentEnd

/-- The next event; none where the text stops being YAML. -/
def next (e : Events) : Option (Event × Events) :=
  match e.stage with
  | .root => e.root
  | .bareRoot => (e.comeBack .documentEnd).node true false
  | .documentEnd => none
  | .blockItem => e.blockItem
  | .indentlessItem => e.indentlessItem
  | .blockKey => e.blockKey
  | .blockValue => e.blockValue
  | .flowItem first => e.flowItem first
  | .pairKey => e.pairKey
  | .pairValue => e.pairValue
  | .pairEnd => e.without .mappingEnd (.flowItem false)
  | .flowKey first => e.flowKey first
  | .flowValue => e.flowValue
  | .flowNoValue => e.without (.blank none none) (.flowKey false)

/-! ### The beginning and the end of a document -/

/-- Takes directives up to the mark that they need. -/
def directives : Nat → Bool → Events → Option Events
  | 0, _, _ => none
  | fuel + 1, versioned, e => do
    let (token, e) ← e.peek
    match token with
    | .version major minor =>
      if versioned || major ≠ 1 || (minor ≠ 1 && minor ≠ 2) then none
      else directives fuel true e.skip
    | .tagDirective handle start =>
      if e.handles.any (·.1 == handle) then none
      else directives fuel versioned { e.skip with handles := (handle, start) :: e.handles }
    | .documentStart =>
      let own := standardHandles.filter fun h => !e.handles.any (·.1 == h.1)
      some { e.skip with stage := .root, later := [], handles := e.handles ++ own }
    | _ => none

/-- What begins a stream: a document, or nothing. -/
inductive Opening where
  | document (e : Events)
  | nothing
  | bad

def start (tokens : Tokens) : Opening :=
  let e : Events := ⟨tokens, .bareRoot, [], []⟩
  match e.peek with
  | none => .bad
  | some (.streamEnd, _) => .nothing
  | some (.version _ _, e) | some (.tagDirective _ _, e) | some (.documentStart, e) =>
    match e.directives (tokens.fuel + 1) false with
    | some e => .document e
    | none => .bad
  | some (_, e) => .document { e with handles := standardHandles }

/-- Goes past marks that end a document and says whether the stream ends there. -/
def endsHere : Nat → Events → Bool
  | 0, _ => false
  | fuel + 1, e =>
    match e.peek with
    | some (.streamEnd, _) => true
    | some (.documentEnd, e) => endsHere fuel e.skip
    | _ => false

end Events

end Podkeeper.Yaml
