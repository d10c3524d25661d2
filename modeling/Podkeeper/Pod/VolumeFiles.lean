/-
The files of volumes.

The volumes of a pod that project a config map become directories below the data root, one per
config map, with a file for each selected key. `VolumePlan` is all that is done for one volume,
and `FilePlan` for a pod: the operations in order, and the objection that ends them. A volume with
a key that is no plain name for a file gets neither files nor a directory, and no later volume is
looked at.
-/

import Podkeeper.Failure
import Podkeeper.Files.Tree
import Podkeeper.Pod.Bundle
import Podkeeper.Pod.MountSpec

namespace Podkeeper

/-! ### Operations -/

/-- A file operation. Directories are named relative to the data root. -/
inductive FileOp where
  /-- Makes a directory, with those above it. -/
  | makeDirectories (directory : String)
  | write (directory name : String) (bytes : Bytes)
  | setMode (directory name : String) (mode : UInt32)
deriving DecidableEq, Repr

namespace FileOp

/-- The path that an operation works on. -/
def path (root : String) : FileOp → String
  | .makeDirectories directory => Path.join root directory
  | .write directory name _ | .setMode directory name _ =>
    Path.join (Path.join root directory) name

/-- What an operation does to a tree. -/
def apply (root : String) (op : FileOp) (t : Tree) : Tree × Except FileError Unit :=
  let settle : Except FileError Tree → Tree × Except FileError Unit
    | .ok t => (t, .ok ())
    | .error e => (t, .error e)
  match op with
  | .makeDirectories _ => t.makeDirectories (op.path root)
  | .write _ _ bytes => settle (t.write (op.path root) bytes)
  | .setMode _ _ mode => settle (t.setMode (op.path root) mode)

/-- The file that an operation writes, relative to the data root. -/
def written? : FileOp → Option String
  | .write directory name _ => some (Path.join directory name)
  | _ => none

end FileOp

/-! ### One volume -/

structure VolumeFile where
  name : String
  bytes : Bytes
  mode : Option UInt32
deriving DecidableEq, Repr

/-- The bits of a mode that count: those of the permissions. -/
def permissionBits : UInt32 := 0o777

/-- The operations for one file in a directory. -/
def VolumeFile.ops (directory : String) (f : VolumeFile) : List FileOp :=
  .write directory f.name f.bytes ::
    (f.mode.map fun mode => .setMode directory f.name (mode &&& permissionBits)).toList

/-- The file of a selected key, if the config map has it. -/
def KeyPath.file? (entries : KeyMap Bytes) (defaultMode : Option UInt32) (item : KeyPath) :
    Option VolumeFile :=
  (entries.get? item.key).map fun bytes =>
    ⟨if item.path = "" then item.key else item.path, bytes, item.mode.or defaultMode⟩

/-- The files that a projection makes of a config map. -/
def Projection.files (p : Projection) (c : ConfigMap) : List VolumeFile :=
  match p.items with
  | some items => items.filterMap (KeyPath.file? c.entries p.defaultMode)
  | none => c.entries.entries.map fun e => ⟨e.1, e.2, p.defaultMode⟩

/-- What is done for a volume that projects a config map which was supplied. -/
structure VolumePlan where
  directory : String
  files : List VolumeFile
deriving DecidableEq, Repr

namespace VolumePlan

/-- The operations in order. -/
def ops (v : VolumePlan) : List FileOp :=
  .makeDirectories v.directory :: v.files.flatMap (VolumeFile.ops v.directory)

/-- The first file with a name that is not plain. -/
def objection? (v : VolumePlan) : Option Objection :=
  (v.files.find? fun f => !Path.isPlainName f.name).map fun f => .fileName f.name

end VolumePlan

/-- What is done for a volume; nothing unless it projects a config map which was supplied. -/
def Volume.plan? (ns : String) (bundles : List Bundle) (v : Volume) : Option VolumePlan :=
  match v.source with
  | .configMap p =>
    (Bundle.findConfigMap? bundles ns p.name).map fun c => ⟨directoryName ns p.name, p.files c⟩
  | _ => none

/-! ### All volumes -/

/-- What is done for the volumes of a pod. -/
structure FilePlan where
  ops : List FileOp
  /-- Why it ends after these operations, before a further volume. -/
  objection : Option Objection
deriving DecidableEq, Repr

namespace FilePlan

/-- The files that are written, relative to the data root, in order. -/
def written (p : FilePlan) : List String := p.ops.filterMap FileOp.written?

/-- What is done for volumes in order. -/
def ofVolumes : List VolumePlan → FilePlan
  | [] => ⟨[], none⟩
  | v :: vs =>
    match v.objection? with
    | some objection => ⟨[], some objection⟩
    | none =>
      let rest := ofVolumes vs
      ⟨v.ops ++ rest.ops, rest.objection⟩

/-- Does operations on a tree until one fails. -/
def applyOps (root : String) : List FileOp → Tree → Tree × Except Failure Unit
  | [], t => (t, .ok ())
  | op :: ops, t =>
    match op.apply root t with
    | (t, .ok ()) => applyOps root ops t
    | (t, .error e) => (t, .error (.io (op.path root) e.message))

/-- Carries a plan out on a tree; gives the files that were written. -/
def apply (root : String) (p : FilePlan) (t : Tree) : Tree × Except Failure (List String) :=
  match applyOps root p.ops t with
  | (t, .error f) => (t, .error f)
  | (t, .ok ()) =>
    match p.objection with
    | some objection => (t, .error (.invalid objection))
    | none => (t, .ok p.written)

end FilePlan

/-- What is done for the volumes of a pod with the bundles that came with it. -/
def Pod.filePlan (p : Pod) (bundles : List Bundle) : FilePlan :=
  .ofVolumes (p.spec.volumes.filterMap (Volume.plan? p.ns bundles))

end Podkeeper
