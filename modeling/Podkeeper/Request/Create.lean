/-
Requests about pods.

A create request brings a pod with its bundles; all other requests name a pod by a reference.
-/

import Podkeeper.Pod.Bundle
import Podkeeper.Pod.Descriptor

namespace Podkeeper

/-- A pod to be created, with the data that comes along. -/
structure CreateRequest where
  pod : Pod
  bundles : List Bundle
deriving DecidableEq, Repr

/-- What identifies a pod. -/
structure PodRef where
  name : String
  ns : String
  uid : String
deriving DecidableEq, Repr

def Pod.reference (p : Pod) : PodRef := ⟨p.metadata.name, p.metadata.ns, p.metadata.uid⟩

end Podkeeper
