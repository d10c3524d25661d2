/-
Checking a pod.

`Pod.check` admits a pod or gives the first violation in a fixed order: identity, number of
containers, each container with the ones before it, volumes, grace period. Names of containers,
volumes and namespaces are DNS labels, because they become parts of paths; names of pods, config
maps and secrets are DNS subdomains.
-/

import Podkeeper.Pod.Descriptor
import Podkeeper.Text.Blank
import Podkeeper.Text.Utf8

namespace Podkeeper

/-! ### Violations -/

/-- Why a pod is not admitted. The first text of a name's violation is the kind of the name. -/
inductive Violation where
  | manifestTooLarge (size : Nat)
  | nameEmpty (kind : String)
  | labelTooLong (kind name : String)
  | labelCharacters (kind name : String)
  | labelEnds (kind name : String)
  | subdomainTooLong (kind name : String)
  | subdomain (kind name : String)
  | uidEmpty
  | uidCharacters (uid : String)
  | noContainer
  | tooManyContainers (count : Nat)
  | duplicateContainer (name : String)
  | noImage (container : String)
  | tooManyVariables (container : String) (count : Nat)
  | variableName (container name : String)
  | mountWithoutName (container : String)
  | mountPath (container path : String)
  | mountSubPath (container subPath : String)
  | tooManyVolumes (count : Nat)
  | duplicateVolume (name : String)
  | emptyItemKey (volume : String)
  | negativeGrace (seconds : Int64)
deriving DecidableEq, Repr

/-! ### Limits -/

namespace Limit

/-- The greatest size of a manifest in bytes. -/
def manifestSize : Nat := 1024 * 1024

/-- The greatest number of containers, the initial ones included. -/
def containers : Nat := 16

def volumes : Nat := 64

/-- The greatest number of variables of a container. -/
def env : Nat := 256

/-- The greatest length of a label in bytes. -/
def label : Nat := 63

/-- The greatest length of a subdomain in bytes. -/
def subdomain : Nat := 253

end Limit

def Violation.message : Violation → String
  | .manifestTooLarge size => s!"manifest size {size} exceeds limit of {Limit.manifestSize}"
  | .nameEmpty kind => s!"{kind} name cannot be empty"
  | .labelTooLong kind name => s!"{kind} name '{name}' exceeds maximum length of {Limit.label}"
  | .labelCharacters kind name =>
    s!"{kind} name '{name}' must contain only lowercase alphanumeric characters or '-'"
  | .labelEnds kind name => s!"{kind} name '{name}' cannot start or end with '-'"
  | .subdomainTooLong kind name =>
    s!"{kind} name '{name}' exceeds maximum length of {Limit.subdomain}"
  | .subdomain kind name => s!"{kind} name '{name}' is not a valid DNS subdomain"
  | .uidEmpty => "pod uid cannot be empty"
  | .uidCharacters uid =>
    s!"pod uid '{uid}' must contain only alphanumeric characters, '-', '_' or '.'"
  | .noContainer => "at least one container required"
  | .tooManyContainers count => s!"too many containers: {count} (max {Limit.containers})"
  | .duplicateContainer name => s!"duplicate container name '{name}'"
  | .noImage container => s!"container '{container}' has no image"
  | .tooManyVariables container count =>
    s!"too many environment variables in container {container}: {count} (max {Limit.env})"
  | .variableName container name => s!"container '{container}' has an invalid env name '{name}'"
  | .mountWithoutName container => s!"volume mount in container '{container}' has no name"
  | .mountPath container path => s!"mountPath '{path}' in container '{container}' must be absolute"
  | .mountSubPath container subPath =>
    s!"subPath '{subPath}' in container '{container}' must be relative without '..'"
  | .tooManyVolumes count => s!"too many volumes: {count} (max {Limit.volumes})"
  | .duplicateVolume name => s!"duplicate volume name '{name}'"
  | .emptyItemKey volume => s!"volume '{volume}' selects an item with an empty key"
  | .negativeGrace seconds =>
    s!"terminationGracePeriodSeconds must not be negative (got {seconds.toInt})"

/-- Either nothing is wrong, or the first violation. -/
abbrev Verdict := Except Violation Unit

/-- A violation unless a condition holds. -/
def require (condition : Bool) (v : Violation) : Verdict :=
  if condition then .ok () else .error v

/-! ### Names -/

namespace Name

/-- A lower-case letter, a digit or a hyphen. -/
def isLabelChar (c : Char) : Bool := c.isLower || c.isDigit || c == '-'

/-- The first and the last character are other than a hyphen. -/
def hasPlainEnds (cs : List Char) : Bool :=
  cs.head? != some '-' && cs.getLast? != some '-'

/-- Splits at each occurrence of a character; there is always a first part. -/
def splitAt (mark : Char) : List Char → List (List Char)
  | [] => [[]]
  | c :: cs =>
    if c = mark then [] :: splitAt mark cs
    else
      match splitAt mark cs with
      | part :: parts => (c :: part) :: parts
      | [] => [[c]]

/-- A DNS label. -/
def checkLabel (kind name : String) : Verdict := do
  require (name != "") (.nameEmpty kind)
  require (Utf8.size name ≤ Limit.label) (.labelTooLong kind name)
  require (name.toList.all isLabelChar) (.labelCharacters kind name)
  require (hasPlainEnds name.toList) (.labelEnds kind name)

/-- A word of a DNS subdomain. -/
def isWord (cs : List Char) : Bool := !cs.isEmpty && hasPlainEnds cs && cs.all isLabelChar

/-- A DNS subdomain: words with points between them. -/
def checkSubdomain (kind name : String) : Verdict := do
  require (name != "") (.nameEmpty kind)
  require (Utf8.size name ≤ Limit.subdomain) (.subdomainTooLong kind name)
  require ((splitAt '.' name.toList).all isWord) (.subdomain kind name)

/-- A character of a unique id. -/
def isUidChar (c : Char) : Bool := c.isAlphanum || c == '-' || c == '_' || c == '.'

/-- A unique id, which becomes part of the names of containers. -/
def checkUid (uid : String) : Verdict := do
  require (uid != "") .uidEmpty
  require (uid.toList.all isUidChar) (.uidCharacters uid)

end Name

/-! ### Containers -/

/-- The sub-path stays below the volume. -/
def isInnerPath (subPath : String) : Bool :=
  subPath.toList.head? != some '/' &&
    (Name.splitAt '/' subPath.toList).all (· != ['.', '.'])

def Mount.check (container : String) (m : Mount) : Verdict := do
  require (m.volume != "") (.mountWithoutName container)
  require (m.path.toList.head? == some '/') (.mountPath container m.path)
  match m.subPath with
  | some subPath => require (isInnerPath subPath) (.mountSubPath container subPath)
  | none => .ok ()

def Container.check (c : Container) : Verdict := do
  Name.checkLabel "container" c.name
  require (!Blank.isBlankText c.image) (.noImage c.name)
  require (c.env.length ≤ Limit.env) (.tooManyVariables c.name c.env.length)
  c.env.forM fun v =>
    require (v.name != "" && !v.name.toList.contains '=') (.variableName c.name v.name)
  c.mounts.forM (·.check c.name)

/-! ### Volumes -/

def Projection.checkItems (volume : String) (p : Projection) : Verdict :=
  (p.items.getD []).forM fun item => require (item.key != "") (.emptyItemKey volume)

def Volume.check (v : Volume) : Verdict := do
  Name.checkLabel "volume" v.name
  match v.source with
  | .configMap p => do
    Name.checkSubdomain "configMap" p.name
    p.checkItems v.name
  | .secret p => do
    Name.checkSubdomain "secret" p.name
    p.checkItems v.name
  | .emptyDir _ => .ok ()

/-! ### Pods -/

/-- Checks each element, and then that its name does not occur before it. -/
def checkDistinct {α : Type} (name : α → String) (check : α → Verdict)
    (duplicate : String → Violation) (seen : List String) : List α → Verdict
  | [] => .ok ()
  | a :: as => do
    check a
    require (!seen.contains (name a)) (duplicate (name a))
    checkDistinct name check duplicate (name a :: seen) as

/-- The grace period is not negative. -/
def checkGrace (seconds : Option Int64) : Verdict :=
  match seconds with
  | some s => require (0 ≤ s) (.negativeGrace s)
  | none => .ok ()

/-- Admits a pod, or gives the first violation. -/
def Pod.check (p : Pod) : Verdict := do
  Name.checkSubdomain "pod" p.metadata.name
  Name.checkLabel "namespace" p.metadata.ns
  Name.checkUid p.metadata.uid
  require (!p.spec.containers.isEmpty) .noContainer
  let count := p.spec.containers.length + p.spec.initContainers.length
  require (count ≤ Limit.containers) (.tooManyContainers count)
  checkDistinct Container.name Container.check .duplicateContainer []
    (p.spec.initContainers ++ p.spec.containers)
  require (p.spec.volumes.length ≤ Limit.volumes) (.tooManyVolumes p.spec.volumes.length)
  checkDistinct Volume.name Volume.check .duplicateVolume [] p.spec.volumes
  checkGrace p.spec.gracePeriod

end Podkeeper
