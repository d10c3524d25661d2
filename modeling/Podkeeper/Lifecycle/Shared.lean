/-
What operations share.

Operations that run at the same time meet in the tracker and in the locks, and nowhere else.
`Shared.answer` is one effect on either by one of them; it gives no answer while the operation has
to wait for a lock, and none to effects that others answer.
-/

import Podkeeper.Lifecycle.Locks
import Podkeeper.Lifecycle.Program
import Podkeeper.Lifecycle.Tracker

namespace Podkeeper

/-- The tracker, and the locks with the operations that claim them. -/
structure Shared where
  tracker : Tracker
  locks : Locks Nat
deriving DecidableEq, Repr

namespace Shared

/-- Nothing is tracked and nothing locked. -/
def empty : Shared := ⟨∅, ∅⟩

instance : EmptyCollection Shared := ⟨empty⟩

/-- Claims the lock of a uid for an operation, unless it did so before. -/
def claim (s : Shared) (owner : Nat) (uid : String) : Shared :=
  if (s.locks.claim? owner).isSome then s else { s with locks := s.locks.lock owner uid }

/-- Ends the claim of an operation. -/
def drop (s : Shared) (owner : Nat) : Shared := { s with locks := s.locks.drop owner }

/-- One effect of an operation, and its answer if there is one now. -/
def answer (s : Shared) (owner : Nat) : (e : Effect) → Shared × Option e.Answer
  | .acquire uid =>
    let s := s.claim owner uid
    (s, if s.locks.holds owner then some () else none)
  | .release _ => (s.drop owner, some ())
  | .lookup uid => (s, some (s.tracker.lookup uid))
  | .register uid entry =>
    ({ s with tracker := s.tracker.register uid entry }, some (s.tracker.lookup uid))
  | .forget uid => ({ s with tracker := s.tracker.forget uid }, some (s.tracker.lookup uid))
  | .file _ | .run _ | .remove _ _ | .inspect _ | .logs _ _ => (s, none)

end Shared

end Podkeeper
