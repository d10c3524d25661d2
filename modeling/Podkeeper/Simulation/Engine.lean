/-
A scripted engine.

The scripted engine answers as it is told. It keeps its containers in memory and names them in the
order of their start; it can be told to fail certain calls, to be down for certain operations, or
to hold starts back until permits are given out. Those that wait for a permit get one in the order
in which they came.
-/

import Podkeeper.Lifecycle.Program

namespace Podkeeper.Simulation

inductive EngineOp where
  | run
  | remove
  | inspect
  | logs
deriving DecidableEq, Repr

def EngineOp.ofWord? (word : String) : Option EngineOp :=
  match word with
  | "run" => some .run
  | "remove" => some .remove
  | "inspect" => some .inspect
  | "logs" => some .logs
  | _ => none

structure ScriptedContainer where
  report : Option Report
  output : Bytes
deriving DecidableEq, Repr

/-- A start that came to a certain number of starts before it, by one who may have to wait. -/
structure Start where
  owner : Nat
  number : Nat
deriving DecidableEq, Repr

/-- The engine with what it was told. -/
structure Engine where
  containers : KeyMap ScriptedContainer
  /-- How many containers were made. -/
  made : Nat
  /-- How many starts were asked for. -/
  asked : Nat
  /-- The numbers of starts that fail. -/
  failingRuns : List Nat
  /-- The containers that cannot be removed. -/
  stuck : List String
  /-- The operations that fail. -/
  down : List EngineOp
  held : Bool
  permits : Nat
  /-- Starts that wait for a permit, in the order in which they came. -/
  waiting : List Start
  /-- Starts that got a permit and go on. -/
  admitted : List Start
  /-- The calls so far, the last first. -/
  calls : List Effect
deriving DecidableEq, Repr

namespace Engine

/-- An engine without containers that does all it is asked. -/
def fresh : Engine := ⟨∅, 0, 0, [], [], [], false, 0, [], [], []⟩

/-! ### Telling -/

/-- Changes a container, if it is there. -/
def change (e : Engine) (handle : String) (f : ScriptedContainer → ScriptedContainer) : Engine :=
  match e.containers.get? handle with
  | some c => { e with containers := e.containers.insert handle (f c) }
  | none => e

def vanish (e : Engine) (handle : String) : Engine :=
  { e with containers := e.containers.erase handle }

/-- Gives out permits; gives the owners who go on, too. -/
def release (e : Engine) (n : Nat) : Engine × List Nat :=
  let permits := e.permits + n
  let lucky := e.waiting.take permits
  ({ e with
      permits := permits - lucky.length
      waiting := e.waiting.drop lucky.length
      admitted := e.admitted ++ lucky },
    lucky.map (·.owner))

def forgetOwner (e : Engine) (owner : Nat) : Engine :=
  { e with
    waiting := e.waiting.filter fun s => s.owner ≠ owner
    admitted := e.admitted.filter fun s => s.owner ≠ owner }

/-! ### Answering -/

/-- The failure of an operation that is down. -/
def unavailable : RuntimeFailure := .unavailable "daemon restarting"

/-- The time at which every container was made. -/
def createdAt : Instant := ⟨1714564800, 0⟩

/-- The name of the container with a number. -/
def handleOf (n : Nat) : String :=
  let digits := toString n
  "c" ++ .ofList (List.replicate (4 - digits.length) '0') ++ digits

def note (e : Engine) (call : Effect) : Engine := { e with calls := call :: e.calls }

/-- Starts a container, the start having a number. -/
def start (e : Engine) (r : RunRequest) (number : Nat) :
    Engine × Except RuntimeFailure String :=
  if e.down.contains .run then (e, .error unavailable)
  else if e.failingRuns.contains number then (e, .error (.failed "run" r.name "image not found"))
  else
    let handle := handleOf (e.made + 1)
    ({ e with
        made := e.made + 1
        containers := e.containers.insert handle ⟨some ⟨"running", "Up", createdAt⟩, []⟩ },
      .ok handle)

/-- Answers a start; no answer while it waits for a permit. -/
def run (e : Engine) (owner : Nat) (r : RunRequest) :
    Engine × Option (Except RuntimeFailure String) :=
  match e.admitted.find? fun s => s.owner == owner with
  | some s =>
    let (e, answer) := { e with admitted := e.admitted.filter (· ≠ s) }.start r s.number
    (e, some answer)
  | none =>
    if e.waiting.any fun s => s.owner == owner then (e, none)
    else
      let number := e.asked
      let e : Engine := { e.note (.run r) with asked := e.asked + 1 }
      if !e.held then
        let (e, answer) := e.start r number
        (e, some answer)
      else if 0 < e.permits then
        let (e, answer) := { e with permits := e.permits - 1 }.start r number
        (e, some answer)
      else ({ e with waiting := e.waiting ++ [⟨owner, number⟩] }, none)

/-- Answers a removal; a container that is not there counts as removed. -/
def remove (e : Engine) (handle : String) (force : Bool) : Engine × Except RuntimeFailure Unit :=
  let e := e.note (.remove handle force)
  if e.down.contains .remove then (e, .error unavailable)
  else if e.stuck.contains handle then (e, .error (.failed "remove" handle "device busy"))
  else (e.vanish handle, .ok ())

def inspect (e : Engine) (handle : String) : Engine × Except RuntimeFailure (Option Report) :=
  let e := e.note (.inspect handle)
  if e.down.contains .inspect then (e, .error unavailable)
  else (e, .ok ((e.containers.get? handle).bind (·.report)))

/-- Answers a request for a log, with all that was written. -/
def logs (e : Engine) (handle : String) (options : LogOptions) :
    Engine × Except RuntimeFailure Bytes :=
  let e := e.note (.logs handle options)
  if e.down.contains .logs then (e, .error unavailable)
  else
    match e.containers.get? handle with
    | some c => (e, .ok c.output)
    | none => (e, .error (.failed "logs" handle "no such container"))

end Engine

end Podkeeper.Simulation
