/-
Reading a pod from a source.

The records below state, field by field and in order, how a description is written: the names of
the fields, which of them may be missing, and what they hold. Sources of volumes and of variables
are written as several fields of which exactly one may be there.
-/

import Podkeeper.Pod.Descriptor
import Podkeeper.Wire.Source

namespace Podkeeper

open Wire Wire.Source

variable {N : Type} {m : Type → Type} [Monad m] [Source N m]

/-! ### Numbers -/

def readUInt32 (n : N) : m UInt32 := do return (.ofNat (← whole .u32 n).toNat)

def readUInt64 (n : N) : m UInt64 := do return (.ofNat (← whole .u64 n).toNat)

/-- A signed number of 32 bits. -/
def readInt32 (n : N) : m Int32 := do return (.ofInt (← whole .i32 n))

/-- A signed number of 64 bits. -/
def readInt64 (n : N) : m Int64 := do return (.ofInt (← whole .i64 n))

/-! ### Containers -/

def KeyRef.read : N → m KeyRef :=
  record .lenient "KeyRef" <|
    mk <$> .required "name" text
      <*> .required "key" text
      <*> .optional "optional" false flag

/-- Where a variable says that its value comes from. -/
structure EnvOrigin where
  configMapKey : Option KeyRef
  secretKey : Option KeyRef

def EnvOrigin.read : N → m EnvOrigin :=
  record .lenient "EnvVarSourceWire" <|
    mk <$> maybe "configMapKeyRef" KeyRef.read
      <*> maybe "secretKeyRef" KeyRef.read

/-- A variable as it is written. -/
structure EnvFields where
  name : String
  value : Option String
  origin : Option EnvOrigin

def EnvFields.read : N → m EnvFields :=
  record .lenient "EnvVarWire" <|
    mk <$> .required "name" text
      <*> maybe "value" text
      <*> maybe "valueFrom" EnvOrigin.read

/-- The variable that fields make: it has a value, an origin, or neither and is empty. -/
def EnvFields.toEnvVar (f : EnvFields) : Except String EnvVar :=
  match f.value, f.origin with
  | some _, some _ => .error s!"env '{f.name}' sets both value and valueFrom"
  | some value, none => .ok ⟨f.name, .literal value⟩
  | none, none => .ok ⟨f.name, .literal ""⟩
  | none, some ⟨some key, none⟩ => .ok ⟨f.name, .configMapKey key⟩
  | none, some ⟨none, some key⟩ => .ok ⟨f.name, .secretKey key⟩
  | none, some _ =>
    .error s!"env '{f.name}' valueFrom must set exactly one of configMapKeyRef, secretKeyRef"

def EnvVar.read : N → m EnvVar := checked EnvFields.read EnvFields.toEnvVar

def Mount.read : N → m Mount :=
  record .lenient "VolumeMount" <|
    mk <$> .required "name" text
      <*> .required "mountPath" text
      <*> maybe "subPath" text
      <*> .optional "readOnly" false flag

def Container.read : N → m Container :=
  record .lenient "Container" <|
    mk <$> .required "name" text
      <*> .required "image" text
      <*> maybe "tag" text
      <*> listField "command" text
      <*> listField "args" text
      <*> mapField "resources" opaqueValue
      <*> listField "volumeMounts" Mount.read
      <*> listField "env" EnvVar.read

/-! ### Volumes -/

def KeyPath.read : N → m KeyPath :=
  record .lenient "KeyToPath" <|
    mk <$> .required "key" text
      <*> .optional "path" "" text
      <*> maybe "mode" readUInt32

/-- A projection, whose name stands in a field of its own name. -/
def Projection.read (record' : String) (nameField : String) : N → m Projection :=
  record .lenient record' <|
    mk <$> .required nameField text
      <*> maybe "items" (sequence KeyPath.read)
      <*> maybe "defaultMode" readUInt32
      <*> maybe "optional" flag

def Scratch.read : N → m Scratch :=
  record .lenient "EmptyDirSource" <|
    mk <$> maybe "medium" text
      <*> maybe "sizeLimit" text

/-- A volume as it is written. -/
structure VolumeFields where
  name : String
  emptyDir : Option Scratch
  secret : Option Projection
  configMap : Option Projection

def VolumeFields.read : N → m VolumeFields :=
  record .lenient "PodVolumeWire" <|
    mk <$> .required "name" text
      <*> maybe "emptyDir" Scratch.read
      <*> maybe "secret" (Projection.read "SecretVolumeSource" "secretName")
      <*> maybe "configMap" (Projection.read "ConfigMapVolumeSource" "name")

/-- The volume that fields make: exactly one source is there. -/
def VolumeFields.toVolume (f : VolumeFields) : Except String Volume :=
  match f.emptyDir, f.secret, f.configMap with
  | some options, none, none => .ok ⟨f.name, .emptyDir options⟩
  | none, some source, none => .ok ⟨f.name, .secret source⟩
  | none, none, some source => .ok ⟨f.name, .configMap source⟩
  | _, _, _ =>
    .error s!"volume '{f.name}' must set exactly one of emptyDir, secret, configMap"

def Volume.read : N → m Volume := checked VolumeFields.read VolumeFields.toVolume

/-! ### Pods -/

def RestartPolicy.read : N → m RestartPolicy :=
  Source.word (all.map word) ofWord? .always

namespace Pod

def Metadata.read : N → m Metadata :=
  record .lenient "PodMetadata" <|
    mk <$> .required "name" text
      <*> .optional "namespace" defaultNamespace text
      <*> .field ⟨"uid", ["uuid", "UID"]⟩ none text
      <*> mapField "labels" text
      <*> mapField "annotations" text

/-- What shall run. -/
def Spec.read : N → m Spec :=
  record .lenient "PodSpec" <|
    mk <$> .required "containers" (sequence Container.read)
      <*> listField "initContainers" Container.read
      <*> listField "volumes" Volume.read
      <*> .optional "restartPolicy" .always RestartPolicy.read
      <*> maybe "terminationGracePeriodSeconds" readInt64

/-- A pod, not checked. -/
def read : N → m Pod :=
  record .lenient "PodDescriptor" <|
    mk <$> .required "metadata" Metadata.read
      <*> .required "spec" Spec.read

end Pod

end Podkeeper
