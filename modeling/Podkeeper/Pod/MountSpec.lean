/-
Mount specifications.

A mount is handed to the engine as `host:path`. The host side is relative to the data root: the
namespace and the volume's name, joined by a hyphen, and the sub-path behind them.
-/

import Podkeeper.Pod.Descriptor

namespace Podkeeper

/-- The directory of a name within a namespace, relative to the data root. -/
def directoryName (ns name : String) : String := ns ++ "-" ++ name

/-- The host side of a mount. -/
def Mount.host (ns : String) (m : Mount) : String :=
  match m.subPath with
  | some subPath =>
    if subPath = "" then directoryName ns m.volume else directoryName ns m.volume ++ "/" ++ subPath
  | none => directoryName ns m.volume

def Mount.spec (ns : String) (m : Mount) : String := m.host ns ++ ":" ++ m.path

/-- The specifications of a container's mounts, in order. -/
def Container.mountSpecs (ns : String) (c : Container) : List String := c.mounts.map (·.spec ns)

end Podkeeper
