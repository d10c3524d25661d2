/-
JSON values.

Numbers are whole, or doubles. Objects keep their members in the order in which they were
written. A value that passes through unread (`Opaque`) is in canonical form: the members of every
object are in increasing order of their keys, and whole numbers fit 64 bits.
-/

import Podkeeper.Decimal.Shortest
import Podkeeper.KeyMap

namespace Podkeeper.Json

inductive Number where
  | whole (n : Int)
  | real (x : Double)
deriving DecidableEq, Repr

/-- A whole number that fits 64 bits, signed or unsigned. -/
def Number.InRange : Number → Prop
  | .whole n => -9223372036854775808 ≤ n ∧ n ≤ 18446744073709551615
  | .real _ => True

inductive Value where
  | null
  | flag (b : Bool)
  | number (n : Number)
  | text (s : String)
  | list (items : List Value)
  | object (members : List (String × Value))
deriving Repr, Inhabited

namespace Value

/-! ### Equality -/

mutual

/-- Two values are equal or not. -/
def decideEq : (v w : Value) → Decidable (v = w)
  | .null, .null => .isTrue rfl
  | .flag a, .flag b => decidable_of_iff (a = b) (by simp)
  | .number a, .number b => decidable_of_iff (a = b) (by simp)
  | .text a, .text b => decidable_of_iff (a = b) (by simp)
  | .list a, .list b =>
    match decideEqItems a b with
    | .isTrue h => .isTrue (by rw [h])
    | .isFalse h => .isFalse (by simpa using h)
  | .object a, .object b =>
    match decideEqMembers a b with
    | .isTrue h => .isTrue (by rw [h])
    | .isFalse h => .isFalse (by simpa using h)
  | .null, .flag _ | .null, .number _ | .null, .text _ | .null, .list _ | .null, .object _
  | .flag _, .null | .flag _, .number _ | .flag _, .text _ | .flag _, .list _ | .flag _, .object _
  | .number _, .null | .number _, .flag _ | .number _, .text _ | .number _, .list _
  | .number _, .object _ | .text _, .null | .text _, .flag _ | .text _, .number _
  | .text _, .list _ | .text _, .object _ | .list _, .null | .list _, .flag _
  | .list _, .number _ | .list _, .text _ | .list _, .object _ | .object _, .null
  | .object _, .flag _ | .object _, .number _ | .object _, .text _ | .object _, .list _ =>
    .isFalse nofun

/-- Two lists of values are equal or not. -/
def decideEqItems : (v w : List Value) → Decidable (v = w)
  | [], [] => .isTrue rfl
  | [], _ :: _ | _ :: _, [] => .isFalse nofun
  | a :: as, b :: bs =>
    match decideEq a b, decideEqItems as bs with
    | .isTrue h, .isTrue h' => .isTrue (by rw [h, h'])
    | .isFalse h, _ => .isFalse (by simp [h])
    | _, .isFalse h => .isFalse (by simp [h])

/-- Two lists of members are equal or not. -/
def decideEqMembers : (v w : List (String × Value)) → Decidable (v = w)
  | [], [] => .isTrue rfl
  | [], _ :: _ | _ :: _, [] => .isFalse nofun
  | (k, a) :: as, (l, b) :: bs =>
    match decEq k l, decideEq a b, decideEqMembers as bs with
    | .isTrue h, .isTrue h', .isTrue h'' => .isTrue (by rw [h, h', h''])
    | .isFalse h, _, _ => .isFalse (by simp [h])
    | _, .isFalse h, _ => .isFalse (by simp [h])
    | _, _, .isFalse h => .isFalse (by simp [h])

end

instance : DecidableEq Value := decideEq

/-! ### Building -/

def whole (n : Int) : Value := .number (.whole n)

def texts (l : List String) : Value := .list (l.map .text)

/-! ### Looking into objects -/

/-- The value of the last member with a key; none in a value that is no object. -/
def get? (key : String) : Value → Option Value
  | .object members => (members.reverse.find? fun m => m.1 == key).map (·.2)
  | _ => none

/-! ### Canonical form -/

/-- Objects list their members in strictly increasing order of keys, and whole numbers fit 64
bits, at every depth. -/
inductive Canonical : Value → Prop where
  | null : Canonical .null
  | flag (b : Bool) : Canonical (.flag b)
  | number (n : Number) : n.InRange → Canonical (.number n)
  | text (s : String) : Canonical (.text s)
  | list (items : List Value) : (∀ v ∈ items, Canonical v) → Canonical (.list items)
  | object (members : List (String × Value)) :
    members.Pairwise (fun a b => a.1 < b.1) → (∀ m ∈ members, Canonical m.2) →
    Canonical (.object members)

end Value

/-- A value in canonical form. -/
structure Opaque where
  value : Value
  canonical : value.Canonical

namespace Opaque

theorem ext {a b : Opaque} (h : a.value = b.value) : a = b := by
  cases a; cases b; cases h; rfl

instance : DecidableEq Opaque := fun a b =>
  if h : a.value = b.value then .isTrue (ext h) else .isFalse fun e => h (e ▸ rfl)

instance : Repr Opaque := ⟨fun o n => reprPrec o.value n⟩

def null : Opaque := ⟨.null, .null⟩

def flag (b : Bool) : Opaque := ⟨.flag b, .flag b⟩

def text (s : String) : Opaque := ⟨.text s, .text s⟩

def real (x : Double) : Opaque := ⟨.number (.real x), .number _ trivial⟩

/-- A whole number, if it fits 64 bits. -/
def whole? (n : Int) : Option Opaque :=
  if h : -9223372036854775808 ≤ n ∧ n ≤ 18446744073709551615 then
    some ⟨.number (.whole n), .number _ h⟩
  else none

def list (items : List Opaque) : Opaque :=
  ⟨.list (items.map (·.value)), .list _ (by
    intro v h
    obtain ⟨o, _, rfl⟩ := List.mem_map.1 h
    exact o.canonical)⟩

def object (members : KeyMap Opaque) : Opaque :=
  ⟨.object (members.entries.map fun m => (m.1, m.2.value)), .object _
    (by rw [List.pairwise_map]; exact members.increasing)
    (by
      intro m h
      obtain ⟨e, _, rfl⟩ := List.mem_map.1 h
      exact e.2.canonical)⟩

end Opaque

end Podkeeper.Json
