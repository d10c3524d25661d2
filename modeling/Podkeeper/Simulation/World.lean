/-
Worlds.

A world lets programs take turns: each runs until it has to wait for a lock or for a permit, or
until it ends. Those that can go on again do so in the order in which that became possible. Files
are kept in a tree and containers by a scripted engine, so that whole histories can be played.
-/

import Podkeeper.Http.Router
import Podkeeper.Lifecycle.Shared
import Podkeeper.Simulation.Engine

namespace Podkeeper.Simulation

/-- A program that has not ended. -/
structure Task (α : Type) where
  key : Nat
  /-- The name of the one who waits for the result, if someone still does. -/
  name : Option String
  /-- It goes on when nobody waits for the result any more. -/
  detached : Bool
  program : Program α

/-- All that a history changes. -/
structure World (α : Type) where
  root : String
  tree : Tree
  engine : Engine
  shared : Shared
  tasks : List (Task α)
  /-- The tasks that can go on, in order. -/
  ready : List Nat
  /-- The results of tasks that ended. -/
  finished : List (Task α × α)
  /-- The key of the next task. -/
  fresh : Nat

namespace World

variable {α : Type}

/-- A world in which nothing has happened. -/
def start (root : String) (tree : Tree) : World α :=
  ⟨root, tree, .fresh, ∅, [], [], [], 0⟩

/-! ### Effects -/

/-- Changes what programs share; those that get a lock by it are ready. -/
def withShared (w : World α) (owner : Nat) (s : Shared) : World α :=
  let before := w.shared.locks.owners .holding
  let granted := (s.locks.owners .holding).filter fun k => k ≠ owner && !before.contains k
  { w with shared := s, ready := w.ready ++ granted }

/-- One effect of a task, and its answer if there is one now. -/
def answer (w : World α) (owner : Nat) : (e : Effect) → World α × Option e.Answer
  | .file op =>
    let (tree, answer) := op.apply w.root w.tree
    ({ w with tree := tree }, some answer)
  | .run r =>
    let (engine, answer) := w.engine.run owner r
    ({ w with engine := engine }, answer)
  | .remove handle force =>
    let (engine, answer) := w.engine.remove handle force
    ({ w with engine := engine }, some answer)
  | .inspect handle =>
    let (engine, answer) := w.engine.inspect handle
    ({ w with engine := engine }, some answer)
  | .logs handle options =>
    let (engine, answer) := w.engine.logs handle options
    ({ w with engine := engine }, some answer)
  | e =>
    let (s, answer) := w.shared.answer owner e
    (w.withShared owner s, answer)

/-! ### Turns -/

/-- Runs a program until it waits or ends; gives what is left of it. -/
def advance (owner : Nat) : Program α → World α → World α × Program α
  | .done a, w => (w, .done a)
  | .perform e next, w =>
    match w.answer owner e with
    | (w, some answer) => advance owner (next answer) w
    | (w, none) => (w, .perform e next)

/-- Lets a task take its turn. -/
def turn (w : World α) (key : Nat) : World α :=
  match w.tasks.find? fun t => t.key == key with
  | none => w
  | some t =>
    match advance key t.program w with
    | (w, .done a) =>
      { w with
        tasks := w.tasks.filter fun t => t.key ≠ key
        finished := w.finished ++ [(t, a)] }
    | (w, rest) =>
      { w with tasks := w.tasks.map fun t => if t.key = key then { t with program := rest } else t }

/-- Lets those that are ready take turns, at most so many. -/
def turns : Nat → World α → World α
  | 0, w => w
  | n + 1, w =>
    match w.ready with
    | [] => w
    | key :: rest =>
      let w : World α := { w with ready := rest }
      turns n (w.turn key)

/-- Lets all take turns until each waits or has ended. A task waits for a lock at most once, so
that there are no more turns than ready and waiting tasks. -/
def settle (w : World α) : World α := turns (w.ready.length + w.tasks.length + 1) w

/-! ### Histories -/

def begin (w : World α) (name : Option String) (detached : Bool) (p : Program α) : World α :=
  let w : World α := { w with
    tasks := w.tasks ++ [⟨w.fresh, name, detached, p⟩]
    ready := w.ready ++ [w.fresh]
    fresh := w.fresh + 1 }
  w.settle

/-- Runs a program that nobody interferes with; its result, if it does not have to wait. -/
def call (w : World α) (p : Program α) : World α × Option α :=
  let key := w.fresh
  let w := w.begin none false p
  let result := (w.finished.find? fun f => f.1.key == key).map (·.2)
  ({ w with finished := w.finished.filter fun f => f.1.key ≠ key }, result)

/-- Gives out permits to start containers. -/
def release (w : World α) (n : Nat) : World α :=
  let (engine, lucky) := w.engine.release n
  let w : World α := { w with engine := engine, ready := w.ready ++ lucky }
  w.settle

/-- Drops a task: its lock goes to the next, and nothing more is done. -/
def drop (w : World α) (key : Nat) : World α :=
  let w : World α := { w with
    tasks := w.tasks.filter fun t => t.key ≠ key
    engine := w.engine.forgetOwner key }
  (w.withShared key (w.shared.drop key)).settle

/-- The one who waits for a result goes away. -/
def abort (w : World α) (name : String) : World α :=
  match w.tasks.find? fun t => t.name == some name with
  | none => w
  | some t =>
    if t.detached then
      { w with
        tasks := w.tasks.map fun u => if u.key = t.key then { u with name := none } else u }
    else w.drop t.key

/-- The names of those who wait for results. -/
def pending (w : World α) : List String := w.tasks.filterMap (·.name)

/-- Takes out the results that came in, with the names of those who waited for them. -/
def collect (w : World α) : World α × List (String × α) :=
  ({ w with finished := [] }, w.finished.filterMap fun f => f.1.name.map (·, f.2))

/-- Takes out the calls that the engine got, the first first. -/
def takeCalls (w : World α) : World α × List Effect :=
  ({ w with engine := { w.engine with calls := [] } }, w.engine.calls.reverse)

/-- Begins what a request asks for in the name of the one who sent it. -/
def serve (w : World α) (name : String) (write : Http.Response → α) (h : Http.Handling) :
    World α :=
  w.begin (some name) h.isDetached (h.program.bind fun r => .done (write r))

end World

end Podkeeper.Simulation
