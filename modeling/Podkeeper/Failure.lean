/-
Failures.

Every operation succeeds or fails with one of these. A failure keeps its cause; the wording and
the status code of an HTTP answer are functions of it.
-/

import Podkeeper.Pod.Check
import Podkeeper.Request.Log

namespace Podkeeper

/-! ### Causes -/

/-- Which kind of object a variable refers to. -/
inductive ObjectKind where
  | configMap
  | secret
deriving DecidableEq, Repr

/-- The word for a kind of object. -/
def ObjectKind.word : ObjectKind → String
  | .configMap => "configMap"
  | .secret => "secret"

/-- Why a request is refused. -/
inductive Objection where
  /-- The pod is not admitted. -/
  | pod (violation : Violation)
  /-- The options of a log exclude each other. -/
  | logOptions (conflict : LogOptions.Conflict)
  /-- The request names no pod. -/
  | noPod (request : String)
  /-- A key of a config map is no name for a file. -/
  | fileName (key : String)
  /-- A variable needs a key that did not come with the pod. -/
  | notSupplied (env container : String) (kind : ObjectKind) (key : KeyRef)
  /-- The request does not say what it must. -/
  | unreadable (reason : String)
  /-- The request is not text of the format that it must have. -/
  | malformed
deriving DecidableEq, Repr

def Objection.message : Objection → String
  | .pod violation => violation.message
  | .logOptions conflict => conflict.message
  | .noPod request => s!"no pods in {request} request"
  | .fileName key => s!"configMap key '{key}' is not a valid file name"
  | .notSupplied env container kind key =>
    s!"env '{env}' of container '{container}' references {kind.word} key " ++
      s!"{key.name}/{key.key} which was not supplied"
  | .unreadable reason => reason
  | .malformed => "malformed text"

/-- What is not there. -/
inductive Absence where
  | pod (uid : String)
  | container (name uid : String)
  | other (what : String)
deriving DecidableEq, Repr

def Absence.message : Absence → String
  | .pod uid => s!"pod {uid} is not tracked"
  | .container name uid => s!"container '{name}' of pod {uid} is not tracked"
  | .other what => what

/-- What goes wrong in talking to the engine. -/
inductive EngineFault where
  /-- The engine answered with an error. -/
  | answered (status : Nat) (text : String)
  /-- The engine reported an error while it sent something. -/
  | stream (text : String)
  /-- There is no socket at the path. -/
  | noSocket (path : String)
  /-- The exchange broke off, or the answer cannot be understood. -/
  | broken
deriving DecidableEq, Repr

/-- The wording of a fault of the engine. -/
def EngineFault.message : EngineFault → String
  | .answered status text => s!"Docker responded with status code {status}: {text}"
  | .stream text => s!"Docker stream error: {text}"
  | .noSocket path => s!"Socket not found: {path}"
  | .broken => "no understandable answer"

/-- Why the runtime does not do what it is asked. -/
inductive RuntimeFailure where
  /-- A step of the operation fails. -/
  | engine (fault : EngineFault)
  /-- The engine does not even answer whether it is there. -/
  | unreachable (fault : EngineFault)
  /-- The data root has no absolute path. -/
  | noDataRoot
  /-- A container was made and did not start. -/
  | notStarted (handle : String) (fault : EngineFault)
  | unavailable (reason : String)
  | failed (operation handle reason : String)
deriving DecidableEq, Repr

/-- The wording of a runtime failure. -/
def RuntimeFailure.message : RuntimeFailure → String
  | .engine fault => s!"docker: {fault.message}"
  | .unreachable fault => s!"runtime unavailable: docker daemon not reachable: {fault.message}"
  | .noDataRoot =>
    "runtime unavailable: cannot resolve data root : cannot make an empty path absolute"
  | .notStarted handle fault => s!"start failed for {handle}: {fault.message}"
  | .unavailable reason => s!"runtime unavailable: {reason}"
  | .failed operation handle reason => s!"{operation} failed for {handle}: {reason}"

/-- Why settings cannot be used. -/
inductive Misconfiguration where
  /-- The file does not say what it must. -/
  | unreadable (reason : String)
  /-- The file is not text of the format that it must have. -/
  | malformed
  /-- A setting is a flag, and the word is none. -/
  | notAFlag (setting word : String)
  | bindAddress (text : String)
  /-- Debug messages and errors only are wanted at once. -/
  | twoLevels
  | noDataRoot
deriving DecidableEq, Repr

/-- The wording of what is wrong with settings. -/
def Misconfiguration.message : Misconfiguration → String
  | .unreadable reason => reason
  | .malformed => "malformed text"
  | .notAFlag setting word => s!"{setting}: '{word}' is not a boolean"
  | .bindAddress text => s!"invalid bind_address '{text}': invalid socket address syntax"
  | .twoLevels => "verbose_logging and errors_only_logging are mutually exclusive"
  | .noDataRoot => "data_root cannot be empty"

/-! ### Failures -/

/-- Why an operation fails. -/
inductive Failure where
  | invalid (objection : Objection)
  | notFound (absence : Absence)
  /-- A file operation fails. -/
  | io (path reason : String)
  | runtime (failure : RuntimeFailure)
  | config (cause : Misconfiguration)
  | serialization (reason : String)
  | internal (reason : String)
deriving DecidableEq, Repr

namespace Failure

def message : Failure → String
  | .invalid objection => s!"invalid request: {objection.message}"
  | .notFound absence => s!"not found: {absence.message}"
  | .io path reason => s!"I/O error at {path}: {reason}"
  | .runtime failure => s!"runtime error: {failure.message}"
  | .config cause => s!"invalid configuration: {cause.message}"
  | .serialization reason => s!"serialization error: {reason}"
  | .internal reason => s!"internal error: {reason}"

/-- The failure beneath, where there is one. -/
def source? : Failure → Option String
  | .io _ reason => some reason
  | .runtime failure => some failure.message
  | _ => none

/-- The caller's request is at fault. -/
def isInvalid : Failure → Bool
  | .invalid _ => true
  | _ => false

/-- What was asked for is not there. -/
def isNotFound : Failure → Bool
  | .notFound _ => true
  | _ => false

/-- The status code of an HTTP answer. -/
def status : Failure → Nat
  | .invalid _ => 400
  | .notFound _ => 404
  | _ => 500

end Failure

/-- A pod that is not admitted fails the request. -/
def Pod.accept (p : Pod) : Except Failure Unit :=
  p.check.mapError fun v => .invalid (.pod v)

end Podkeeper
