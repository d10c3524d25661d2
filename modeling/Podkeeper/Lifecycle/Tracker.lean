/-
The tracker.

The tracker knows which containers were started for a uid. It is all that is remembered between
requests. Uids are compared as they are, and a new entry replaces an old one.
-/

import Podkeeper.KeyMap
import Podkeeper.Pod.Status

namespace Podkeeper

structure Tracker where
  entries : KeyMap (List Tracked)
deriving DecidableEq, Repr

namespace Tracker

/-- Nothing is tracked. -/
def empty : Tracker := ⟨∅⟩

instance : EmptyCollection Tracker := ⟨empty⟩

/-- The containers of a uid, if it is tracked. -/
def lookup (t : Tracker) (uid : String) : Option (List Tracked) := t.entries.get? uid

/-- Notes the containers of a uid. -/
def register (t : Tracker) (uid : String) (entry : List Tracked) : Tracker :=
  ⟨t.entries.insert uid entry⟩

/-- Drops what is noted about a uid. -/
def forget (t : Tracker) (uid : String) : Tracker := ⟨t.entries.erase uid⟩

/-- The number of uids that are tracked. -/
def size (t : Tracker) : Nat := t.entries.size

@[simp] theorem lookup_empty (uid : String) : (∅ : Tracker).lookup uid = none := rfl

theorem lookup_register (t : Tracker) (uid uid' : String) (entry : List Tracked) :
    (t.register uid entry).lookup uid' = if uid' = uid then some entry else t.lookup uid' :=
  KeyMap.get?_insert t.entries uid uid' entry

theorem lookup_forget (t : Tracker) (uid uid' : String) :
    (t.forget uid).lookup uid' = if uid' = uid then none else t.lookup uid' :=
  KeyMap.get?_erase t.entries uid uid'

end Tracker

end Podkeeper
