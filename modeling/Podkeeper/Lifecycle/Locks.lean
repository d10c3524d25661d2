/-
Locks.

Each uid has a lock of its own, which exists as long as someone holds it or waits for it. To lock
a uid is to make a claim: the claim finds or makes the entry of the uid, counts as one of its
users and waits for the entry's mutex. A claim that holds the mutex gives it back first and then
stops being a user; one that only waits stops waiting first. The last user takes the entry with
it, and whoever comes later gets a new mutex.

The steps `enter`, `grant`, `abandon`, `unlock` and `leave` are atomic, and anything may happen
between two of them. `lock`, `drop` and `settle` are the usual sequences: claims on one mutex are
granted in the order in which they were made.
-/

import Podkeeper.KeyMap

namespace Podkeeper

/-- How far a claim has come. -/
inductive ClaimPhase where
  | waiting
  | holding
  /-- Neither holds nor waits any more, and still counts as a user. -/
  | leaving
deriving DecidableEq, Repr

/-- A claim on the lock of a uid, made by `owner`. -/
structure Claim (κ : Type) where
  owner : κ
  uid : String
  mutex : Nat
  phase : ClaimPhase
deriving DecidableEq, Repr

/-- The entry of a uid: its mutex and the number of its users. -/
structure LockEntry where
  mutex : Nat
  users : Nat
deriving DecidableEq, Repr

/-- The locks of all uids, and the claims in the order in which they were made. -/
structure Locks (κ : Type) where
  entries : KeyMap LockEntry
  claims : List (Claim κ)
  /-- The next mutex; those before have been used. -/
  fresh : Nat
deriving DecidableEq, Repr

namespace Locks

variable {κ : Type} [DecidableEq κ]

/-- Nobody uses a lock. -/
def empty : Locks κ := ⟨∅, [], 0⟩

instance : EmptyCollection (Locks κ) := ⟨empty⟩

/-! ### Looking -/

/-- The number of uids with an entry. -/
def size (l : Locks κ) : Nat := l.entries.size

def claim? (l : Locks κ) (owner : κ) : Option (Claim κ) :=
  l.claims.find? fun c => decide (c.owner = owner)

def holds (l : Locks κ) (owner : κ) : Bool :=
  (l.claim? owner).any fun c => decide (c.phase = .holding)

/-- Nobody holds the mutex. -/
def isFree (l : Locks κ) (mutex : Nat) : Bool :=
  l.claims.all fun c => !(c.mutex == mutex && c.phase == .holding)

/-- The owners of claims in a phase, in the order in which the claims were made. -/
def owners (l : Locks κ) (phase : ClaimPhase) : List κ :=
  (l.claims.filter fun c => c.phase = phase).map (·.owner)

/-! ### Steps -/

/-- Changes the claims of an owner that are in one phase to another phase. -/
def move (l : Locks κ) (owner : κ) (before after : ClaimPhase) : Locks κ :=
  { l with
    claims := l.claims.map fun c =>
      if c.owner = owner ∧ c.phase = before then { c with phase := after } else c }

/-- Makes a claim: finds or makes the entry of the uid and becomes one of its users. -/
def enter (l : Locks κ) (owner : κ) (uid : String) : Locks κ :=
  match l.entries.get? uid with
  | some e =>
    { l with
      entries := l.entries.insert uid { e with users := e.users + 1 }
      claims := l.claims ++ [⟨owner, uid, e.mutex, .waiting⟩] }
  | none =>
    { entries := l.entries.insert uid ⟨l.fresh, 1⟩
      claims := l.claims ++ [⟨owner, uid, l.fresh, .waiting⟩]
      fresh := l.fresh + 1 }

/-- Gives an owner that waits the mutex, if nobody holds it. -/
def grant (l : Locks κ) (owner : κ) : Locks κ :=
  match l.claim? owner with
  | some c => if l.isFree c.mutex then l.move owner .waiting .holding else l
  | none => l

def abandon (l : Locks κ) (owner : κ) : Locks κ := l.move owner .waiting .leaving

def unlock (l : Locks κ) (owner : κ) : Locks κ := l.move owner .holding .leaving

/-- One user less for a uid; the last one takes the entry with it. -/
def releaseUser (entries : KeyMap LockEntry) (uid : String) : KeyMap LockEntry :=
  match entries.get? uid with
  | some e =>
    if e.users - 1 = 0 then entries.erase uid
    else entries.insert uid { e with users := e.users - 1 }
  | none => entries

/-- Stops being a user, after the mutex was given back or the waiting was given up. -/
def leave (l : Locks κ) (owner : κ) : Locks κ :=
  match l.claim? owner with
  | some c =>
    if c.phase = .leaving then
      { l with
        entries := releaseUser l.entries c.uid
        claims := l.claims.filter fun c => c.owner ≠ owner }
    else l
  | none => l

/-! ### Sequences of steps -/

/-- Grants claims in their order until nothing more can be granted. -/
def settle (l : Locks κ) : Locks κ := (l.owners .waiting).foldl grant l

/-- Makes a claim, which is granted at once if nobody else has the lock. -/
def lock (l : Locks κ) (owner : κ) (uid : String) : Locks κ := (l.enter owner uid).settle

/-- Ends the claim of an owner, whether it holds or waits; others may get the lock. -/
def drop (l : Locks κ) (owner : κ) : Locks κ :=
  (((l.unlock owner).abandon owner).leave owner).settle

end Locks

end Podkeeper
