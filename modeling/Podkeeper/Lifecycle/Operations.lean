/-
What can be done with pods.

To create a pod is to check it, to take the lock of its uid, to write its volumes, to put together
the requests for all its containers before any of them is started, to start them one by one, and
to note their handles. A container that does not start takes those started before it with it, and
nothing is noted. To delete a pod is to remove all its containers, also after one of them could
not be removed; only when all are gone is the pod forgotten, so that a failed delete can be
repeated. Status and logs only read.
-/

import Podkeeper.Lifecycle.Assembly

namespace Podkeeper

/-- Where volumes are written, and which containers of a pod are started. -/
structure Site where
  dataRoot : String
  /-- All containers, and not the first one only. -/
  allContainers : Bool
deriving DecidableEq, Repr

namespace Site

/-! ### Creating -/

/-- Does file operations in order; one that fails ends them. -/
def fileOps (site : Site) : List FileOp → Operation Unit
  | [] => pure ()
  | op :: ops => do
    match ← Operation.effect (.file op) with
    | .ok () => site.fileOps ops
    | .error e => throw (.io (op.path site.dataRoot) e.message)

/-- Writes the volumes of a pod; gives the files that were written. -/
def writeVolumes (site : Site) (plan : FilePlan) : Operation (List String) := do
  site.fileOps plan.ops
  match plan.objection with
  | some objection => throw (.invalid objection)
  | none => return plan.written

/-- The containers of a pod that are started. -/
def provisioned (site : Site) (p : Pod) : List Container :=
  if site.allContainers then p.spec.containers else p.spec.containers.take 1

/-- The requests to start containers, with their names, up to the first that fails. -/
def runRequests (p : Pod) (bundles : List Bundle) :
    List Container → Except Failure (List (String × RunRequest))
  | [] => .ok []
  | c :: cs => do
    let request ← RunRequest.build p bundles c
    let requests ← runRequests p bundles cs
    .ok ((c.name, request) :: requests)

/-- Removes containers, whether or not that succeeds. -/
def discard : List Tracked → Program Unit
  | [] => pure ()
  | t :: ts => do
    let _ ← Program.effect (.remove t.handle true)
    discard ts

/-- Starts containers in order after those that were started before; when one does not start, all
are discarded. -/
def startAll (started : List Tracked) : List (String × RunRequest) → Operation (List Tracked)
  | [] => pure started
  | (name, request) :: requests => do
    match ← Operation.effect (.run request) with
    | .ok handle => startAll (started ++ [⟨name, handle⟩]) requests
    | .error e =>
      ExceptT.lift (discard started)
      throw (.runtime e)

def create (site : Site) (request : CreateRequest) : Operation Unit := do
  let p := request.pod
  Operation.ofExcept p.accept
  Operation.locked p.uid do
    let _ ← site.writeVolumes (p.filePlan request.bundles)
    let requests ← Operation.ofExcept (runRequests p request.bundles (site.provisioned p))
    let started ← startAll [] requests
    let _ ← Operation.effect (.register p.uid started)

/-! ### Deleting -/

/-- Removes containers in order; gives the first failure. -/
def removeAll (failure : Option RuntimeFailure) :
    List Tracked → Program (Option RuntimeFailure)
  | [] => pure failure
  | t :: ts => do
    match ← Program.effect (.remove t.handle true) with
    | .ok () => removeAll failure ts
    | .error e => removeAll (failure.or (some e)) ts

/-- What is tracked of a uid. -/
def tracked (uid : String) : Operation (List Tracked) := do
  match ← Operation.effect (.lookup uid) with
  | some entry => return entry
  | none => throw (.notFound (.pod uid))

/-- Deletes the pod of a uid. -/
def delete (uid : String) : Operation Unit :=
  Operation.locked uid do
    let entry ← tracked uid
    match ← ExceptT.lift (removeAll none entry) with
    | some e => throw (.runtime e)
    | none =>
      match ← Operation.effect (.forget uid) with
      | some _ => return ()
      | none => throw (.notFound (.pod uid))

/-! ### Reading -/

/-- The states of containers in order; one that cannot be inspected ends them. -/
def states : List Tracked → Operation (List ContainerStatus)
  | [] => pure []
  | t :: ts => do
    let report ← Operation.engine (Program.effect (.inspect t.handle))
    let rest ← states ts
    return ⟨t.name, .ofReport report⟩ :: rest

def status (r : PodRef) : Operation PodStatus := do
  let entry ← tracked r.uid
  let containers ← states entry
  return ⟨r.name, r.uid, r.ns, containers⟩

/-- The container of an entry that a request means: the first, if it names none. -/
def chosen? (entry : List Tracked) (name : String) : Option Tracked :=
  if name = "" then entry.head? else entry.find? fun t => t.name == name

def logs (r : LogRequest) : Operation Bytes := do
  Operation.ofExcept (r.options.check.mapError fun c => .invalid (.logOptions c))
  let entry ← tracked r.podUid
  match chosen? entry r.containerName with
  | none => throw (.notFound (.container r.containerName r.podUid))
  | some t => Operation.engine (Program.effect (.logs t.handle r.options))

/-! ### Batches -/

/-- What is said when a pod was created. -/
def createdText : String := "Containers created"

/-- What is said when a pod was deleted. -/
def deletedText : String := "Containers deleted"

/-- Creates the first pod of a batch. -/
def createFirst (site : Site) : List CreateRequest → Operation String
  | [] => throw (.invalid (.noPod "create"))
  | request :: _ => do
    site.create request
    return createdText

/-- Deletes the pod of a reference. -/
def deleteRef (r : PodRef) : Operation String := do
  delete r.uid
  return deletedText

/-- The status of the first pod of a batch. -/
def statusFirst : List PodRef → Operation (List PodStatus)
  | [] => throw (.invalid (.noPod "status"))
  | r :: _ => do return [← status r]

end Site

end Podkeeper
