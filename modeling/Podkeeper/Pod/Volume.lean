/-
Volumes of a pod.

A volume has exactly one source. Config maps and secrets project their keys into files, all of
them or a selection.
-/

namespace Podkeeper

/-- A selected key and the file that it becomes. -/
structure KeyPath where
  key : String
  /-- The name of the file; when empty the key names it. -/
  path : String
  mode : Option UInt32
deriving DecidableEq, Repr

/-- A config map or a secret and the files made from it. -/
structure Projection where
  name : String
  /-- The selected keys; all keys when absent. -/
  items : Option (List KeyPath)
  defaultMode : Option UInt32
  optional : Option Bool
deriving DecidableEq, Repr

structure Scratch where
  medium : Option String
  sizeLimit : Option String
deriving DecidableEq, Repr

inductive VolumeSource where
  | emptyDir (options : Scratch)
  | secret (source : Projection)
  | configMap (source : Projection)
deriving DecidableEq, Repr

structure Volume where
  name : String
  source : VolumeSource
deriving DecidableEq, Repr

end Podkeeper
