/-
Writing a pod as JSON.

Fields stand in the order in which they are read. Empty lists, empty maps and absent values leave
no member; flags and the restart policy are always written.
-/

import Podkeeper.Json.Build
import Podkeeper.Pod.Descriptor

namespace Podkeeper

open Json Json.Value

def encodeUInt32 (n : UInt32) : Value := .whole n.toNat

def KeyRef.encode (k : KeyRef) : Value := record [
  member "name" (.text k.name),
  member "key" (.text k.key),
  member "optional" (.flag k.optional)]

/-- A variable: its name, and its value or its origin. -/
def EnvVar.encode (v : EnvVar) : Value := record [
  member "name" (.text v.name),
  match v.source with
  | .literal value => member "value" (.text value)
  | .configMapKey k => member "valueFrom" (record [member "configMapKeyRef" k.encode])
  | .secretKey k => member "valueFrom" (record [member "secretKeyRef" k.encode])]

def Mount.encode (m : Mount) : Value := record [
  member "name" (.text m.volume),
  member "mountPath" (.text m.path),
  given "subPath" .text m.subPath,
  member "readOnly" (.flag m.readOnly)]

def Container.encode (c : Container) : Value := record [
  member "name" (.text c.name),
  member "image" (.text c.image),
  given "tag" .text c.tag,
  nonEmptyList "command" .text c.command,
  nonEmptyList "args" .text c.args,
  nonEmptyMap "resources" Opaque.value c.resources,
  nonEmptyList "volumeMounts" Mount.encode c.mounts,
  nonEmptyList "env" EnvVar.encode c.env]

def KeyPath.encode (k : KeyPath) : Value := record [
  member "key" (.text k.key),
  member "path" (.text k.path),
  given "mode" encodeUInt32 k.mode]

/-- A projection, its name in a field of its own name. -/
def Projection.encode (nameField : String) (p : Projection) : Value := record [
  member nameField (.text p.name),
  given "items" (fun items => .list (items.map KeyPath.encode)) p.items,
  given "defaultMode" encodeUInt32 p.defaultMode,
  given "optional" .flag p.optional]

def Scratch.encode (s : Scratch) : Value := record [
  given "medium" .text s.medium,
  given "sizeLimit" .text s.sizeLimit]

/-- A volume: its name and its source. -/
def Volume.encode (v : Volume) : Value := record [
  member "name" (.text v.name),
  match v.source with
  | .emptyDir options => member "emptyDir" options.encode
  | .secret source => member "secret" (source.encode "secretName")
  | .configMap source => member "configMap" (source.encode "name")]

namespace Pod

def Metadata.encode (m : Metadata) : Value := record [
  member "name" (.text m.name),
  member "namespace" (.text m.ns),
  member "uid" (.text m.uid),
  nonEmptyMap "labels" .text m.labels,
  nonEmptyMap "annotations" .text m.annotations]

/-- What shall run. -/
def Spec.encode (s : Spec) : Value := record [
  member "containers" (.list (s.containers.map Container.encode)),
  nonEmptyList "initContainers" Container.encode s.initContainers,
  nonEmptyList "volumes" Volume.encode s.volumes,
  member "restartPolicy" (.text s.restartPolicy.word),
  given "terminationGracePeriodSeconds" (fun n => .whole n.toInt) s.gracePeriod]

def encode (p : Pod) : Value := record [
  member "metadata" p.metadata.encode,
  member "spec" p.spec.encode]

end Pod

end Podkeeper
