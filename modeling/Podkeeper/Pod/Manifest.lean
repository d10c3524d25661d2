/-
Manifests.

A manifest is the text of one pod. It is read and the pod is checked; its size counts before
anything is read.
-/

import Podkeeper.Failure
import Podkeeper.Json.Decode
import Podkeeper.Pod.Decode
import Podkeeper.Yaml.Decode

namespace Podkeeper.Pod

/-- The size of a manifest is admitted. -/
def checkSize (bytes : Bytes) : Except Failure Unit :=
  (require (bytes.length ≤ Limit.manifestSize) (.manifestTooLarge bytes.length)).mapError
    fun v => .invalid (.pod v)

/-- The pod of a JSON manifest. -/
def ofJson (bytes : Bytes) : Except Failure Pod := do
  checkSize bytes
  let p ← (Json.decode read bytes).mapError fun e => .invalid (.unreadable e.message)
  p.accept
  .ok p

/-- The pod of a YAML manifest. -/
def ofYaml (bytes : Bytes) : Except Failure Pod := do
  checkSize bytes
  let p ← (Yaml.decode read bytes).mapError fun e =>
    match e.message? with
    | some reason => .invalid (.unreadable reason)
    | none => .invalid .malformed
  p.accept
  .ok p

end Podkeeper.Pod
