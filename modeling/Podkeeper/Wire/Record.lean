/-
Records read field by field.

A record stands in a text as named members in any order, or as a bare row of its fields. Each
field is read on its own, and its failure carries the place in the text where it showed. Of the
failures of all fields the one at the earliest place is the failure of the record, as if the text
had been read once from left to right; at equal places the earlier field counts.
-/

namespace Podkeeper.Wire

/-! ### Failures with their places -/

/-- A value, or a failure and the place where it showed. -/
inductive Placed (ε α : Type) where
  | value (a : α)
  | failure (place : Nat) (e : ε)
deriving DecidableEq, Repr

namespace Placed

variable {ε α β : Type}

/-- Applies a function that was read to an argument that was read; of two failures the one at
the earlier place counts. -/
def both : Placed ε (α → β) → Placed ε α → Placed ε β
  | .value f, .value a => .value (f a)
  | .failure i e, .value _ => .failure i e
  | .value _, .failure j e => .failure j e
  | .failure i e, .failure j e' => if j < i then .failure j e' else .failure i e

instance : Applicative (Placed ε) where
  pure := value
  seq f a := both f (a ())

/-- Gives a failure its place. -/
def placeAt (place : Nat) : Except ε α → Placed ε α
  | .ok a => .value a
  | .error e => .failure place e

def forget : Placed ε α → Except ε α
  | .value a => .ok a
  | .failure _ e => .error e

end Placed

/-! ### Fields -/

/-- The names under which a field may stand; the first is the one that messages use. -/
structure Label where
  name : String
  aliases : List String
deriving DecidableEq, Repr

/-- The field may stand under this name. -/
def Label.covers (l : Label) (name : String) : Bool :=
  l.name == name || l.aliases.contains name

/-- What the text holds for a field. -/
inductive Cell (N ε : Type) where
  /-- The value, its place, and the failure of a second value, if there is one. -/
  | given (place : Nat) (node : N) (again : Option (Nat × ε))
  /-- Nothing; the failure is that of a field that must be there. -/
  | absent (place : Nat) (missing : ε)

/-- How the value of a field is read from what the text holds. -/
def Cell.read {N ε α : Type} (default : Option α) (read : N → Except ε α) :
    Cell N ε → Placed ε α
  | .given place node again =>
    match read node, again with
    | .error e, _ => .failure place e
    | .ok _, some (place, e) => .failure place e
    | .ok a, none => .value a
  | .absent place missing =>
    match default with
    | some a => .value a
    | none => .failure place missing

/-! ### Records -/

/-- The fields of a record in order, and how its value is made once each of them can be read: from
its number, its label, the value to take when it is not there, and the reading of its value. -/
structure Record (N : Type) (m : Type → Type) (α : Type) where
  labels : List Label
  build : {p : Type → Type} → [Applicative p] →
    ({β : Type} → Nat → Label → Option β → (N → m β) → p β) → p α

namespace Record

variable {N : Type} {m : Type → Type} {α β : Type}

def const (a : α) : Record N m α := ⟨[], fun _ => pure a⟩

/-- Changes the value of a record. -/
def map (f : α → β) (r : Record N m α) : Record N m β :=
  ⟨r.labels, fun read => f <$> r.build read⟩

/-- The fields of two records, one after the other. -/
def append (r : Record N m (α → β)) (s : Record N m α) : Record N m β :=
  ⟨r.labels ++ s.labels, fun read =>
    r.build read <*> s.build fun i => read (r.labels.length + i)⟩

instance : Functor (Record N m) := ⟨map, fun a => map fun _ => a⟩

instance : Pure (Record N m) := ⟨const⟩

instance : Seq (Record N m) := ⟨fun r s => append r (s ())⟩

/-- One field with a given label. -/
def field (label : Label) (default : Option α) (read : N → m α) : Record N m α :=
  ⟨[label], fun readField => readField 0 label default read⟩

/-- A field that must be there. -/
def required (name : String) (read : N → m α) : Record N m α := field ⟨name, []⟩ none read

/-- A field with a value to take when it is not there. -/
def optional (name : String) (default : α) (read : N → m α) : Record N m α :=
  field ⟨name, []⟩ (some default) read

/-- One of the fields has this name. -/
def knows (r : Record N m α) (name : String) : Bool := r.labels.any (·.covers name)

def width (r : Record N m α) : Nat := r.labels.length

end Record

end Podkeeper.Wire
