/-
Requests to start a container.

What a pod declares about a container, together with the data that came along, makes a request to
start it. A variable that refers to a key takes the bytes of that key as text; a key that is not
there leaves the variable out if it is optional and fails the whole request otherwise.
-/

import Podkeeper.Lifecycle.Program
import Podkeeper.Request.Create

namespace Podkeeper

/-- The value that a variable refers to, where its source is not a literal. -/
def KeyRef.value? (ns : String) (bundles : List Bundle) (kind : ObjectKind) (k : KeyRef) :
    Option Bytes :=
  match kind with
  | .configMap => (Bundle.findConfigMap? bundles ns k.name).bind (·.get? k.key)
  | .secret => (Bundle.findSecret? bundles ns k.name).bind (·.get? k.key)

/-- A variable with its value; none if it is left out. -/
def EnvVar.resolve (ns : String) (bundles : List Bundle) (container : String) (v : EnvVar) :
    Except Failure (Option (String × String)) :=
  let refer (kind : ObjectKind) (k : KeyRef) : Except Failure (Option (String × String)) :=
    match k.value? ns bundles kind with
    | some bytes => .ok (some (v.name, Utf8.lossy bytes))
    | none =>
      if k.optional then .ok none
      else .error (.invalid (.notSupplied v.name container kind k))
  match v.source with
  | .literal value => .ok (some (v.name, value))
  | .configMapKey k => refer .configMap k
  | .secretKey k => refer .secret k

/-- Variables with their values, in order, up to the first that fails. -/
def resolveAll (ns : String) (bundles : List Bundle) (container : String) :
    List EnvVar → Except Failure (List (String × String))
  | [] => .ok []
  | v :: vs => do
    let value ← v.resolve ns bundles container
    let values ← resolveAll ns bundles container vs
    .ok (value.toList ++ values)

/-- The variables of a container with their values. -/
def Container.resolveEnv (ns : String) (bundles : List Bundle) (c : Container) :
    Except Failure (List (String × String)) := resolveAll ns bundles c.name c.env

/-- The label that holds the uid of a container's pod. -/
def RunRequest.uidLabel : String := "magiklink.pod.uid"

/-- The label that holds the namespace of a container's pod. -/
def RunRequest.nsLabel : String := "magiklink.pod.namespace"

/-- The request to start a container of a pod. -/
def RunRequest.build (p : Pod) (bundles : List Bundle) (c : Container) :
    Except Failure RunRequest := do
  let env ← c.resolveEnv p.ns bundles
  .ok {
    name := c.name ++ "-" ++ p.uid
    image := c.imageReference
    command := " ".intercalate c.command
    args := " ".intercalate c.args
    commandWords := c.command
    argWords := c.args
    env := env
    mounts := c.mountSpecs p.ns
    labels := [(uidLabel, p.uid), (nsLabel, p.ns)] }

end Podkeeper
