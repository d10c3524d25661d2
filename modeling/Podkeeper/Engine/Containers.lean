/-
Containers of an engine.

To run a container is to see to its image, to make the container and to start it; one that does
not start is removed again, so that a failed run leaves no container behind. Removing a container
that is not there succeeds, and inspecting one gives no report.
-/

import Podkeeper.Engine.Ask

namespace Podkeeper.Engine

/-- A dialogue that may fail. -/
abbrev Attempt (α : Type) := ExceptT RuntimeFailure Dialogue α

namespace Attempt

def ask (a : Ask) : Attempt a.Answer := ExceptT.lift (Interaction.ask a)

/-- A value, or the fault of the engine as its failure. -/
def ofAnswer {α : Type} (answer : Except EngineFault α) : Attempt α :=
  ExceptT.mk (pure (answer.mapError .engine))

end Attempt

/-- The engine says that there is no such container. -/
def isAbsence : EngineFault → Bool
  | .answered status _ => status = 404
  | _ => false

/-- Makes sure that the engine is there and that mounts can be anchored; gives the absolute path
of the data root. -/
def connect (workingDirectory dataRoot : String) : Attempt String := do
  match ← Attempt.ask .ping with
  | .error fault => throw (.unreachable fault)
  | .ok () =>
    match Path.absolute? workingDirectory dataRoot with
    | some root => return root
    | none => throw .noDataRoot

/-- Fetches an image unless it is there. -/
def ensureImage (image : String) : Attempt Unit := do
  match ← Attempt.ask (.findImage image) with
  | .ok () => return ()
  | .error _ =>
    let progress ← Attempt.ask (.pullImage image)
    Attempt.ofAnswer progress.outcome

/-- Runs a container; gives its handle. -/
def run (root : String) (r : RunRequest) : Attempt String := do
  ensureImage r.image
  let created ← Attempt.ask (.create r.name (.ofRequest root r))
  let id ← Attempt.ofAnswer created
  match ← Attempt.ask (.start id) with
  | .ok () => return id
  | .error fault =>
    let _ ← Attempt.ask (.remove id true false)
    throw (.notStarted id fault)

/-- Removes a container and its volumes. -/
def remove (handle : String) (force : Bool) : Attempt Unit := do
  match ← Attempt.ask (.remove handle force true) with
  | .ok () => return ()
  | .error fault => if isAbsence fault then return () else throw (.engine fault)

/-- The report about a container, if it is there. -/
def inspect (now : Instant) (handle : String) : Attempt (Option Report) := do
  match ← Attempt.ask (.inspect handle) with
  | .ok inspection => return some (inspection.report now)
  | .error fault => if isAbsence fault then return none else throw (.engine fault)

def logs (now : Instant) (handle : String) (o : LogOptions) : Attempt Bytes := do
  let stream ← Attempt.ask (.readLog handle (.ofOptions now o))
  Attempt.ofAnswer (LogChunk.collect (o.byteLimit.map (·.toNat)) stream)

end Podkeeper.Engine
