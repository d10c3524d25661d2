/-
Sources of values.

A source is a tree read from some text. It says whether a node is a text, a flag, a whole number,
a sequence, a mapping or a record, and words the failure when it is not. The readers of all
domain types go through these few questions, so one reader serves every format of text.
-/

import Podkeeper.KeyMap
import Podkeeper.Json.Value
import Podkeeper.Wire.Fault
import Podkeeper.Wire.Record

namespace Podkeeper.Wire

/-- A range of whole numbers and its name in messages. -/
structure Range where
  name : String
  low : Int
  high : Int
deriving Repr

namespace Range

def u16 : Range := ⟨"u16", 0, 65535⟩

def u32 : Range := ⟨"u32", 0, 4294967295⟩

def u64 : Range := ⟨"u64", 0, 18446744073709551615⟩

def i32 : Range := ⟨"i32", -2147483648, 2147483647⟩

def i64 : Range := ⟨"i64", -9223372036854775808, 9223372036854775807⟩

/-- The number is in the range. -/
def holds (r : Range) (n : Int) : Bool := r.low ≤ n && n ≤ r.high

theorem holds_iff {r : Range} {n : Int} : r.holds n = true ↔ r.low ≤ n ∧ n ≤ r.high := by
  rw [holds, Bool.and_eq_true, decide_eq_true_eq, decide_eq_true_eq]

end Range

/-- Whether a list of its fields counts as a record. -/
inductive Listing where
  | never
  /-- Fields at the end of the list may be left out, if they may be absent. -/
  | shortened
  /-- The list has all fields. -/
  | full
deriving DecidableEq, Repr

/-- How a record is written: whether members that it does not know are refused and not skipped,
and whether a list of its fields counts as well. -/
structure Style where
  closed : Bool
  listing : Listing
deriving DecidableEq, Repr

namespace Style

/-- Unknown members are skipped, and a list of the fields counts. -/
def lenient : Style := ⟨false, .shortened⟩

/-- Unknown members are refused. -/
def strict : Style := ⟨true, .shortened⟩

/-- Unknown members are skipped, and only named members count. -/
def namedOnly : Style := ⟨false, .never⟩

/-- Unknown members are skipped, and a list of all fields counts. -/
def exhaustive : Style := ⟨false, .full⟩

end Style

/-- A tree with nodes `N` that is read in `m`. -/
class Source (N : Type) (m : outParam (Type → Type)) where
  /-- Refuses parts that are well formed and make no value together. -/
  refuse : {α : Type} → Fault → m α
  /-- What a reading gives, if it succeeds; nothing else comes of it. -/
  attempt : {α : Type} → m α → m (Option α)
  /-- A value that may be absent; the node may say so. -/
  option : {α : Type} → (N → m α) → N → m (Option α)
  /-- A text; messages call it by the given words. -/
  textCalled : String → N → m String
  flag : N → m Bool
  whole : Range → N → m Int
  sequence : {α : Type} → (N → m α) → N → m (List α)
  mapping : {α : Type} → (N → m α) → N → m (List (String × α))
  /-- A record, with its name in messages. -/
  record : {α : Type} → Style → String → Record N m α → N → m α
  /-- One of a few words. -/
  choice : List String → N → m String
  /-- Any value at all. -/
  opaqueValue : N → m Json.Opaque

namespace Source

variable {N : Type} {m : Type → Type} {α β : Type} [Monad m] [Source N m]

def text (n : N) : m String := textCalled "a string" n

/-- A mapping from text; of two members with one key the later counts. -/
def keyMap (read : N → m α) (n : N) : m (KeyMap α) := KeyMap.ofList <$> mapping read n

/-- A value made from parts, which may refuse each other. -/
def checked (read : N → m α) (make : α → Except String β) (n : N) : m β := do
  match make (← read n) with
  | .ok b => return b
  | .error reason => refuse N (.refused reason)

/-- A field that may be absent, or present without a value. -/
def maybe (name : String) (read : N → m α) : Record N m (Option α) :=
  .optional name none (option read)

/-- A list that is empty when absent. -/
def listField (name : String) (read : N → m α) : Record N m (List α) :=
  .optional name [] (sequence read)

/-- A mapping that is empty when absent. -/
def mapField (name : String) (read : N → m α) : Record N m (KeyMap α) :=
  .optional name ∅ (keyMap read)

/-- A word that stands for a value. -/
def word (known : List String) (value? : String → Option α) (default : α) (n : N) : m α := do
  return (value? (← choice known n)).getD default

/-- The first of several readings that succeeds. -/
def firstFrom (choice : String) (n : N) : List (N → m α) → m α
  | [] => refuse N (.noAlternative choice)
  | read :: reads => do
    match ← attempt N (read n) with
    | some a => return a
    | none => firstFrom choice n reads

/-- The first of several readings that succeeds. The value must be readable as a whole first. -/
def firstOf (choice : String) (reads : List (N → m α)) (n : N) : m α := do
  let _ ← opaqueValue n
  firstFrom choice n reads

end Source

end Podkeeper.Wire
