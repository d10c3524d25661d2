/-
Writing requests and their answers as JSON.

Bytes are written in base64 and instants as texts. A state has one member, named for it, and the
pending state has none.
-/

import Podkeeper.Pod.Encode
import Podkeeper.Pod.Status
import Podkeeper.Request.Create
import Podkeeper.Request.Log
import Podkeeper.Text.Base64

namespace Podkeeper

open Json Json.Value

/-! ### Bundles -/

/-- The name and the namespace of a member. -/
def ObjectMeta.encode (m : ObjectMeta) : Value := record [
  member "name" (.text m.name),
  nonEmptyText "namespace" m.ns]

def encodeBytes (bytes : Bytes) : Value := .text (Base64.encode bytes)

def ConfigMap.encode (c : ConfigMap) : Value := record [
  member "metadata" c.metadata.encode,
  nonEmptyMap "data" .text c.data,
  nonEmptyMap "binaryData" encodeBytes c.binaryData,
  given "immutable" .flag c.immutable]

def Secret.encode (s : Secret) : Value := record [
  member "metadata" s.metadata.encode,
  nonEmptyMap "data" encodeBytes s.data,
  nonEmptyMap "stringData" .text s.stringData,
  given "type" .text s.kind,
  given "immutable" .flag s.immutable]

def Bundle.encode (b : Bundle) : Value := record [
  member "name" (.text b.name),
  member "namespace" (.text b.ns),
  member "configMaps" (.list (b.configMaps.map ConfigMap.encode)),
  member "secrets" (.list (b.secrets.map Secret.encode)),
  member "emptyDirs" (.texts b.emptyDirs)]

def CreateRequest.encode (r : CreateRequest) : Value := record [
  member "pod" r.pod.encode,
  member "container" (.list (r.bundles.map Bundle.encode))]

def PodRef.encode (r : PodRef) : Value := record [
  member "name" (.text r.name),
  member "namespace" (.text r.ns),
  member "uid" (.text r.uid)]

/-! ### Logs -/

def Instant.encode (t : Instant) : Value := .text t.text

def LogOptions.encode (o : LogOptions) : Value := record [
  member "Tail" (.whole o.tail.toNat),
  member "Bytes" (.whole o.limitBytes.toNat),
  member "Timestamps" (.flag o.timestamps),
  member "Follow" (.flag o.follow),
  member "Previous" (.flag o.previous),
  member "SinceSeconds" (.whole o.sinceSeconds.toInt),
  given "SinceTime" Instant.encode o.sinceTime]

def LogRequest.encode (r : LogRequest) : Value := record [
  member "Namespace" (.text r.ns),
  member "PodUID" (.text r.podUid),
  member "PodName" (.text r.podName),
  member "ContainerName" (.text r.containerName),
  member "Opts" r.options.encode]

/-! ### Status -/

/-- A state, as its one member. -/
def ContainerState.member? : ContainerState → Member?
  | .pending => none
  | .running startedAt => member "running" (record [member "startedAt" startedAt.encode])
  | .waiting message reason => member "waiting" (record [
      member "message" (.text message), member "reason" (.text reason)])
  | .terminated reason exitCode => member "terminated" (record [
      member "reason" (.text reason), member "exitCode" (.whole exitCode.toInt)])

def ContainerState.encode (s : ContainerState) : Value := record [s.member?]

def ContainerStatus.encode (s : ContainerStatus) : Value := record [
  member "name" (.text s.name),
  member "state" s.state.encode]

def PodStatus.encode (s : PodStatus) : Value := record [
  member "name" (.text s.name),
  member "UID" (.text s.uid),
  member "namespace" (.text s.ns),
  member "containers" (.list (s.containers.map ContainerStatus.encode))]

end Podkeeper
