/-
Documents of YAML.

A document is the list of its events, as far as the text is YAML. Anchors are resolved: each alias
has the number of the event that it stands for. An anchor gets its number from the count of the
names known so far, and of two anchors with one number the later counts.
-/

import Podkeeper.Yaml.Event

namespace Podkeeper.Yaml

/-- A part of a document, its anchors resolved. -/
inductive Part where
  /-- The document has no text at all. -/
  | nothing
  /-- Stands for the part at a number. -/
  | alias (anchor : Nat)
  | scalar (tag : Option Bytes) (text : String) (style : Style)
  | sequence (tag : Option Bytes)
  | sequenceEnd
  | mapping (tag : Option Bytes)
  | mappingEnd
deriving DecidableEq, Repr

structure Document where
  parts : Array Part
  /-- For each part the number behind it and all that it encloses, if that is there. -/
  behind : Array (Option Nat)
  /-- The numbers of the parts with anchors, the latest first. -/
  anchors : List (Nat × Nat)
  /-- The text is YAML to its end and holds no other document. -/
  complete : Bool

namespace Document

/-! ### Loading -/

/-- A document under way: its parts, last first, their count, the names of anchors with their
numbers, and the numbers with their parts. -/
structure Loading where
  parts : List Part
  count : Nat
  names : List (String × Nat)
  anchors : List (Nat × Nat)

namespace Loading

def add (l : Loading) (p : Part) : Loading := { l with parts := p :: l.parts, count := l.count + 1 }

/-- Gives the next part an anchor. -/
def mark (l : Loading) (anchor : Option String) : Loading :=
  match anchor with
  | none => l
  | some name =>
    let id := l.names.length
    { l with
      names := (name, id) :: l.names.filter (·.1 != name)
      anchors := (id, l.count) :: l.anchors }

/-- Takes an event; none for an alias without an anchor. -/
def take (l : Loading) : Event → Option Loading
  | .alias name => (l.names.find? (·.1 == name)).map fun a => l.add (.alias a.2)
  | .scalar anchor tag text style => some ((l.mark anchor).add (.scalar tag text style))
  | .sequenceStart anchor tag => some ((l.mark anchor).add (.sequence tag))
  | .sequenceEnd => some (l.add .sequenceEnd)
  | .mappingStart anchor tag => some ((l.mark anchor).add (.mapping tag))
  | .mappingEnd => some (l.add .mappingEnd)

end Loading

/-- Takes the events of one document, and says whether the text is sound to its end. -/
def load : Nat → Events → Loading → Loading × Bool
  | 0, _, l => (l, false)
  | fuel + 1, e, l =>
    if e.stage = .documentEnd then (l, e.endsHere (e.tokens.fuel + 1))
    else
      match e.next with
      | none => (l, false)
      | some (event, e) =>
        match l.take event with
        | none => (l, false)
        | some l => load fuel e l

/-- Finds what is behind each part; `opened` holds the parts that are not closed. -/
def measure (behind : Array (Option Nat)) (opened : List Nat) (i : Nat) :
    List Part → Array (Option Nat)
  | [] => behind
  | .sequence _ :: rest | .mapping _ :: rest =>
    measure (behind.push none) (i :: opened) (i + 1) rest
  | .sequenceEnd :: rest | .mappingEnd :: rest =>
    match opened with
    | o :: opened =>
      measure ((behind.push (some (i + 1))).setIfInBounds o (some (i + 1))) opened (i + 1) rest
    | [] => measure (behind.push (some (i + 1))) [] (i + 1) rest
  | _ :: rest => measure (behind.push (some (i + 1))) opened (i + 1) rest

def ofParts (parts : List Part) (anchors : List (Nat × Nat)) (complete : Bool) : Document :=
  ⟨parts.toArray, measure #[] [] 0 parts, anchors, complete⟩

/-- The first document of the tokens. -/
def ofTokens (t : Tokens) : Document :=
  match Events.start t with
  | .bad => ofParts [] [] false
  | .nothing => ofParts [.nothing] [] true
  | .document e =>
    let (l, complete) := load (8 * t.fuel + 64) e ⟨[], 0, [], []⟩
    ofParts l.parts.reverse l.anchors complete

/-- The first document of a text. -/
def ofBytes (bytes : Bytes) : Document := ofTokens (.start (readable bytes))

/-! ### Looking into a document -/

def part? (d : Document) (i : Nat) : Option Part := d.parts[i]?

def behind? (d : Document) (i : Nat) : Option Nat := (d.behind[i]?).join

/-- The parts directly within a sequence or a mapping, from a number on, and whether it is
closed. -/
def childrenFrom (d : Document) (acc : List Nat) : Nat → Nat → List Nat × Bool
  | 0, _ => (acc.reverse, false)
  | fuel + 1, i =>
    match d.part? i with
    | none => (acc.reverse, false)
    | some .sequenceEnd | some .mappingEnd => (acc.reverse, true)
    | some _ =>
      match d.behind? i with
      | some next => childrenFrom d (i :: acc) fuel next
      | none => ((i :: acc).reverse, false)

/-- The parts directly within the sequence or the mapping at a number. -/
def children (d : Document) (i : Nat) : List Nat × Bool :=
  d.childrenFrom [] (d.parts.size + 1) (i + 1)

end Document

end Podkeeper.Yaml
