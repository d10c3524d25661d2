/-
Bundles of data.

A bundle brings the config maps and secrets that a pod refers to. A member belongs to its own
namespace, else to that of its bundle, and one without any to whatever pod it was sent with.
Texts count before bytes where a key has both.
-/

import Podkeeper.KeyMap
import Podkeeper.Text.Utf8

namespace Podkeeper

/-- The name and the namespace of a config map or a secret. -/
structure ObjectMeta where
  name : String
  ns : String
deriving DecidableEq, Repr

structure ConfigMap where
  metadata : ObjectMeta
  data : KeyMap String
  binaryData : KeyMap Bytes
  immutable : Option Bool
deriving DecidableEq, Repr

namespace ConfigMap

/-- All entries, texts and bytes merged. -/
def entries (c : ConfigMap) : KeyMap Bytes :=
  c.data.entries.foldl (fun m e => m.insert e.1 (Utf8.ofString e.2)) c.binaryData

def get? (c : ConfigMap) (key : String) : Option Bytes :=
  ((c.data.get? key).map Utf8.ofString).or (c.binaryData.get? key)

end ConfigMap

structure Secret where
  metadata : ObjectMeta
  data : KeyMap Bytes
  stringData : KeyMap String
  kind : Option String
  immutable : Option Bool
deriving DecidableEq, Repr

def Secret.get? (s : Secret) (key : String) : Option Bytes :=
  ((s.stringData.get? key).map Utf8.ofString).or (s.data.get? key)

/-- Config maps and secrets that come with a pod. -/
structure Bundle where
  name : String
  /-- The namespace of members that name none. -/
  ns : String
  configMaps : List ConfigMap
  secrets : List Secret
  emptyDirs : List String
deriving DecidableEq, Repr

namespace Bundle

/-- The namespace that counts for a member. -/
def effectiveNs (b : Bundle) (m : ObjectMeta) : String :=
  if m.ns = "" then b.ns else m.ns

/-- A member answers to a name within a namespace. -/
def answers (b : Bundle) (ns name : String) (m : ObjectMeta) : Bool :=
  m.name == name && (b.effectiveNs m == "" || b.effectiveNs m == ns)

/-- The first config map that answers. -/
def configMap? (b : Bundle) (ns name : String) : Option ConfigMap :=
  b.configMaps.find? fun c => b.answers ns name c.metadata

/-- The first secret that answers. -/
def secret? (b : Bundle) (ns name : String) : Option Secret :=
  b.secrets.find? fun s => b.answers ns name s.metadata

/-- The first config map of several bundles that answers. -/
def findConfigMap? (bundles : List Bundle) (ns name : String) : Option ConfigMap :=
  bundles.findSome? fun b => b.configMap? ns name

/-- The first secret of several bundles that answers. -/
def findSecret? (bundles : List Bundle) (ns name : String) : Option Secret :=
  bundles.findSome? fun b => b.secret? ns name

end Bundle

end Podkeeper
