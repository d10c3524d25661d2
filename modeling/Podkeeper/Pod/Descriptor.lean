/-
Pods.

A pod is described by its identity and by what shall run: containers, volumes and policies. The
description comes with a request to create the pod and is not kept.
-/

import Podkeeper.Pod.Container
import Podkeeper.Pod.Volume

namespace Podkeeper

/-- When a container that ended is started again. -/
inductive RestartPolicy where
  | always
  | onFailure
  | never
deriving DecidableEq, Repr

/-- The words for the restart policies. -/
def RestartPolicy.word : RestartPolicy → String
  | .always => "Always"
  | .onFailure => "OnFailure"
  | .never => "Never"

/-- The restart policies in their order in messages. -/
def RestartPolicy.all : List RestartPolicy := [.always, .onFailure, .never]

def RestartPolicy.ofWord? (word : String) : Option RestartPolicy :=
  all.find? fun p => p.word == word

namespace Pod

/-- The identity of a pod and what else is noted about it. -/
structure Metadata where
  name : String
  ns : String
  uid : String
  labels : KeyMap String
  annotations : KeyMap String
deriving DecidableEq, Repr

/-- What shall run. -/
structure Spec where
  containers : List Container
  /-- Accepted and checked, and never started. -/
  initContainers : List Container
  volumes : List Volume
  restartPolicy : RestartPolicy
  gracePeriod : Option Int64
deriving DecidableEq, Repr

end Pod

structure Pod where
  metadata : Pod.Metadata
  spec : Pod.Spec
deriving DecidableEq, Repr

namespace Pod

/-- The namespace of a pod that names none. -/
def defaultNamespace : String := "default"

/-- The grace period in seconds of a pod that states none. -/
def defaultGracePeriod : Int64 := 30

def uid (p : Pod) : String := p.metadata.uid

def ns (p : Pod) : String := p.metadata.ns

/-- The grace period in seconds. -/
def gracePeriod (p : Pod) : Int64 := p.spec.gracePeriod.getD defaultGracePeriod

def volume? (p : Pod) (name : String) : Option Volume :=
  p.spec.volumes.find? fun v => v.name == name

end Pod

end Podkeeper
