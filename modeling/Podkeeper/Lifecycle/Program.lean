/-
Programs of effects.

An operation on a pod is a program: it performs one effect after the other and each answer decides
how it goes on. The effects are all that an operation can do to what it shares with others, to
files and to the engine. A program says nothing about who answers; many programs can take turns.
-/

import Podkeeper.Failure
import Podkeeper.Interaction
import Podkeeper.Pod.Status
import Podkeeper.Pod.VolumeFiles

namespace Podkeeper

/-- Everything that is needed to start a container. -/
structure RunRequest where
  name : String
  image : String
  /-- The command and the arguments, each in one line. -/
  command : String
  args : String
  /-- The command and the arguments as they were declared. -/
  commandWords : List String
  argWords : List String
  env : List (String × String)
  mounts : List String
  labels : List (String × String)
deriving DecidableEq, Repr

/-- Something that an operation does. -/
inductive Effect where
  /-- Takes the lock of a uid, waiting for it if need be. -/
  | acquire (uid : String)
  /-- Gives the lock of a uid back. -/
  | release (uid : String)
  /-- Looks a uid up in the tracker. -/
  | lookup (uid : String)
  /-- Notes the containers of a uid. -/
  | register (uid : String) (entry : List Tracked)
  /-- Drops what is noted about a uid. -/
  | forget (uid : String)
  /-- Works on a file. -/
  | file (op : FileOp)
  /-- Starts a container. -/
  | run (request : RunRequest)
  /-- Removes a container. -/
  | remove (handle : String) (force : Bool)
  /-- Asks what a container does. -/
  | inspect (handle : String)
  /-- Reads the log of a container. -/
  | logs (handle : String) (options : LogOptions)
deriving DecidableEq, Repr

abbrev Effect.Answer : Effect → Type
  | .acquire _ | .release _ => Unit
  | .lookup _ | .register _ _ | .forget _ => Option (List Tracked)
  | .file _ => Except FileError Unit
  | .run _ => Except RuntimeFailure String
  | .remove _ _ => Except RuntimeFailure Unit
  | .inspect _ => Except RuntimeFailure (Option Report)
  | .logs _ _ => Except RuntimeFailure Bytes

/-- A program that ends with a value. -/
abbrev Program := Interaction Effect.Answer

/-- The program that performs one effect. -/
def Program.effect (e : Effect) : Program e.Answer := .ask e

/-- A program that may fail. -/
abbrev Operation (α : Type) := ExceptT Failure Program α

namespace Operation

variable {α : Type}

def effect (e : Effect) : Operation e.Answer := ExceptT.lift (Program.effect e)

/-- Performs an effect of the engine; its failure is that of the operation. -/
def engine (answer : Program (Except RuntimeFailure α)) : Operation α :=
  ExceptT.mk do return (← answer).mapError .runtime

/-- A value, or the failure that is already known. -/
def ofExcept (e : Except Failure α) : Operation α := ExceptT.mk (pure e)

/-- Does something with the lock of a uid, which is given back however it ends. -/
def locked (uid : String) (body : Operation α) : Operation α := ExceptT.mk do
  Program.effect (.acquire uid)
  let result ← body.run
  Program.effect (.release uid)
  return result

end Operation

end Podkeeper
