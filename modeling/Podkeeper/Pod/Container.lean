/-
Containers of a pod.

A container names its image, its command and what it gets: variables, each from exactly one
source, and mounts of the pod's volumes.
-/

import Podkeeper.Json.Value

namespace Podkeeper

/-- One key of a config map or a secret. -/
structure KeyRef where
  name : String
  key : String
  /-- A key that is not there leaves the variable unset. -/
  optional : Bool
deriving DecidableEq, Repr

/-- Where the value of a variable comes from. -/
inductive EnvSource where
  | literal (value : String)
  | configMapKey (key : KeyRef)
  | secretKey (key : KeyRef)
deriving DecidableEq, Repr

structure EnvVar where
  name : String
  source : EnvSource
deriving DecidableEq, Repr

structure Mount where
  volume : String
  path : String
  subPath : Option String
  readOnly : Bool
deriving DecidableEq, Repr

structure Container where
  name : String
  image : String
  tag : Option String
  command : List String
  args : List String
  /-- Hints that pass through unread. -/
  resources : KeyMap Json.Opaque
  mounts : List Mount
  env : List EnvVar
deriving DecidableEq, Repr

/-- The image with its tag, if the tag is given and not empty. -/
def Container.imageReference (c : Container) : String :=
  match c.tag with
  | some tag => if tag = "" then c.image else c.image ++ ":" ++ tag
  | none => c.image

end Podkeeper
