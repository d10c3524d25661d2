/-
Reading requests from a source.

Bundles carry bytes as base64. A reference to a pod is written as the three texts themselves or
as an object that holds them under `metadata`, so every encoding of a pod is a reference to it.
-/

import Podkeeper.Pod.Decode
import Podkeeper.Pod.Status
import Podkeeper.Request.Create
import Podkeeper.Request.Log
import Podkeeper.Text.Base64
import Podkeeper.Text.Blank
import Podkeeper.Time.Reader

namespace Podkeeper

open Wire Wire.Source

variable {N : Type} {m : Type → Type} [Monad m] [Source N m]

/-! ### Bundles -/

/-- The name and the namespace of a member. -/
def ObjectMeta.read : N → m ObjectMeta :=
  record .lenient "ObjectMeta" <|
    mk <$> .optional "name" "" text
      <*> .optional "namespace" "" text

/-- Decodes the entries of a map in the order of their keys; blanks around a value do not count. -/
def decodeEntries (acc : KeyMap Bytes) : List (String × String) → Except String (KeyMap Bytes)
  | [] => .ok acc
  | (key, value) :: rest =>
    match Base64.decode (Blank.trim value) with
    | .ok bytes => decodeEntries (acc.insert key bytes) rest
    | .error refusal => .error s!"key '{key}' is not valid base64: {refusal.message}"

/-- A map with bytes for values, written in base64. -/
def readBytesMap : N → m (KeyMap Bytes) :=
  checked (keyMap text) fun m => decodeEntries ∅ m.entries

/-- The metadata of a member that has none. -/
def ObjectMeta.none : ObjectMeta := ⟨"", ""⟩

def ConfigMap.read : N → m ConfigMap :=
  record .lenient "ConfigMap" <|
    mk <$> .optional "metadata" .none ObjectMeta.read
      <*> mapField "data" text
      <*> .optional "binaryData" ∅ readBytesMap
      <*> maybe "immutable" flag

def Secret.read : N → m Secret :=
  record .lenient "Secret" <|
    mk <$> .optional "metadata" .none ObjectMeta.read
      <*> .optional "data" ∅ readBytesMap
      <*> mapField "stringData" text
      <*> maybe "type" text
      <*> maybe "immutable" flag

def Bundle.read : N → m Bundle :=
  record .lenient "VolumeBundle" <|
    mk <$> .optional "name" "" text
      <*> .optional "namespace" "" text
      <*> .field ⟨"configMaps", ["configmaps"]⟩ (some []) (sequence ConfigMap.read)
      <*> listField "secrets" Secret.read
      <*> .field ⟨"emptyDirs", ["emptydirs"]⟩ (some []) (sequence text)

def CreateRequest.read : N → m CreateRequest :=
  record .lenient "PodCreateRequest" <|
    mk <$> .required "pod" Pod.read
      <*> .field ⟨"container", ["volumes"]⟩ (some []) (sequence Bundle.read)

/-! ### References -/

namespace PodRef

/-- The three texts, each of which may be missing. -/
def readFields : N → m PodRef :=
  record .lenient "ReferenceFields" <|
    mk <$> .optional "name" "" text
      <*> .optional "namespace" "" text
      <*> .field ⟨"uid", ["uuid", "UID"]⟩ (some "") text

/-- An object that holds them. -/
def readObject : N → m PodRef :=
  record .namedOnly "PodReferenceWire" (id <$> .required "metadata" readFields)

/-- A reference in either form. -/
def read : N → m PodRef := firstOf "PodReferenceWire" [readObject, readFields]

end PodRef

/-! ### Logs -/

/-- An instant in its relaxed form. -/
def Instant.read : N → m Instant :=
  checked (textCalled "an RFC 3339 formatted date and time string") fun s =>
    match Instant.relaxed s with
    | .ok t => .ok t
    | .error refusal => .error refusal.message

def LogOptions.read : N → m LogOptions :=
  record .lenient "LogOptions" <|
    mk <$> .optional "Tail" 0 readUInt64
      <*> .optional "Bytes" 0 readUInt64
      <*> .optional "Timestamps" false flag
      <*> .optional "Follow" false flag
      <*> .optional "Previous" false flag
      <*> .optional "SinceSeconds" 0 readInt64
      <*> maybe "SinceTime" Instant.read

def LogRequest.read : N → m LogRequest :=
  record .lenient "LogRequest" <|
    mk <$> .optional "Namespace" "" text
      <*> .required "PodUID" text
      <*> .optional "PodName" "" text
      <*> .optional "ContainerName" "" text
      <*> .optional "Opts" .all LogOptions.read

/-! ### Status -/

/-- The state of a container as it is written. -/
structure StateFields where
  running : Option ContainerState
  waiting : Option ContainerState
  terminated : Option ContainerState

def StateFields.read : N → m StateFields :=
  record .lenient "ContainerStatesWire" <|
    mk <$> maybe "running" (record .lenient "StateRunning"
        (.running <$> .required "startedAt" Instant.read))
      <*> maybe "waiting" (record .lenient "StateWaiting"
        (.waiting <$> .optional "message" "" text <*> .optional "reason" "" text))
      <*> maybe "terminated" (record .lenient "StateTerminated"
        (.terminated <$> .optional "reason" "" text <*> .required "exitCode" readInt32))

/-- The state that fields make: at most one is there. -/
def StateFields.toState (f : StateFields) : Except String ContainerState :=
  match f.running, f.waiting, f.terminated with
  | none, none, none => .ok .pending
  | some s, none, none | none, some s, none | none, none, some s => .ok s
  | _, _, _ =>
    .error "container state must have at most one of running, waiting, terminated"

def ContainerState.read : N → m ContainerState :=
  checked StateFields.read StateFields.toState

def ContainerStatus.read : N → m ContainerStatus :=
  record .lenient "ContainerStatus" <|
    mk <$> .required "name" text
      <*> .required "state" ContainerState.read

def PodStatus.read : N → m PodStatus :=
  record .lenient "PodStatus" <|
    mk <$> .required "name" text
      <*> .required "UID" text
      <*> .required "namespace" text
      <*> listField "containers" ContainerStatus.read

end Podkeeper
