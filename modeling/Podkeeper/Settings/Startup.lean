/-
Starting up.

The settings in force are layered: defaults or a file, then the environment, then the command
line; what comes out must be usable. A failure says in which step it happened.
-/

import Podkeeper.Settings.Arguments

namespace Podkeeper

inductive Startup.Step where
  | load (path : String)
  | override
  | check
deriving DecidableEq, Repr

def Startup.Step.message : Startup.Step → String
  | .load path => s!"loading config from {path}"
  | .override => "applying environment overrides"
  | .check => "invalid configuration"

/-- A failure to start up, with the step in which it happened. -/
structure Startup.Failed where
  step : Startup.Step
  cause : Failure
deriving DecidableEq, Repr

/-- The wordings of a failure, the outermost first. -/
def Startup.Failed.chain (f : Startup.Failed) : List String :=
  [f.step.message, f.cause.message] ++ f.cause.source?.toList

/-- A failure with its causes, as it is shown to whoever started the program. -/
def Startup.Failed.text (f : Startup.Failed) : String :=
  match f.chain with
  | [] => "Error"
  | [step] => "Error: " ++ step
  | [step, cause] => s!"Error: {step}\n\nCaused by:\n    {cause}"
  | step :: causes =>
    s!"Error: {step}\n\nCaused by:" ++
      "".intercalate (causes.zipIdx.map fun (cause, i) => s!"\n    {i}: {cause}")

namespace Settings

/-- The settings of a file with given bytes, or the reason why there are none. -/
def load (path : String) (contents : Except String Bytes) : Except Failure Settings :=
  match contents with
  | .error reason => .error (.io path reason)
  | .ok bytes =>
    if (Utf8.decode? bytes).isSome then ofYaml bytes
    else .error (.io path "stream did not contain valid UTF-8")

/-- What the command line says counts more than anything else. -/
def withArguments (a : Arguments) (s : Settings) : Settings :=
  let s : Settings :=
    { s with
      bindAddress := a.bind.getD s.bindAddress
      dataRoot := a.dataRoot.getD s.dataRoot
      dockerHost := a.dockerHost.or s.dockerHost
      allContainers := a.allContainers || s.allContainers }
  if a.errorsOnly then { s with verbose := false, errorsOnly := true }
  else if a.verbose then { s with verbose := true, errorsOnly := false }
  else s

/-- The settings in force, from the files, the environment and the command line. -/
def layered (files : String → Except String Bytes) (env : String → Option String)
    (a : Arguments) : Except Startup.Failed Settings := do
  let s ←
    match a.config with
    | none => pure default
    | some path => (load path (files path)).mapError (⟨.load path, ·⟩)
  let (s, applied) := s.override env
  applied.mapError (⟨.override, ·⟩)
  let s := s.withArguments a
  s.check.mapError (⟨.check, ·⟩)
  return s

end Settings

end Podkeeper
