/-
Status of pods.

A container is in at most one state. What the engine reports, a label, a line of text and the time
of creation, becomes such a state; anything but running or exited counts as completed, so that a
caller who asks whether a pod is done gets an answer.
-/

import Podkeeper.Text.Digit
import Podkeeper.Time.Instant

namespace Podkeeper

/-- A container of a pod as the engine knows it. -/
structure Tracked where
  name : String
  handle : String
deriving DecidableEq, Repr

inductive ContainerState where
  | pending
  | running (startedAt : Instant)
  | waiting (message reason : String)
  | terminated (reason : String) (exitCode : Int32)
deriving DecidableEq, Repr

/-- The state of a container with its name. -/
structure ContainerStatus where
  name : String
  state : ContainerState
deriving DecidableEq, Repr

/-- The states of a pod's containers in the order of their start. -/
structure PodStatus where
  name : String
  uid : String
  ns : String
  containers : List ContainerStatus
deriving DecidableEq, Repr

/-- What the engine says about a container. -/
structure Report where
  label : String
  raw : String
  createdAt : Instant
deriving DecidableEq, Repr

namespace Report

/-- The label of a container whose process is alive. -/
def runningLabel : String := "running"

/-- The label of a container whose process has ended. -/
def exitedLabel : String := "exited"

end Report

/-! ### Exit codes -/

namespace ExitCode

/-- What stands before an exit code. -/
def opening : List Char := "Exited (".toList

/-- The digits of an exit code that begins here and is closed by a parenthesis, with its sign. -/
def matchHere? (cs : List Char) : Option (Bool × List Char) :=
  if opening.isPrefixOf cs then
    let body := cs.drop opening.length
    let negative := body.head? == some '-'
    let body := if negative then body.tail else body
    let digits := body.takeWhile isDecimalDigit
    if !digits.isEmpty && (body.drop digits.length).head? == some ')' then
      some (negative, digits)
    else none
  else none

/-- The first exit code in a text: its sign and its digits. -/
def firstMatch? : List Char → Option (Bool × List Char)
  | [] => none
  | c :: cs => (matchHere? (c :: cs)).or (firstMatch? cs)

/-- The number of ASCII digits, if it fits 32 bits. -/
def value? (negative : Bool) (digits : List Char) : Option Int32 := do
  let n ← Digit.nat? digits
  let v : Int := if negative then -n else n
  if -2147483648 ≤ v ∧ v ≤ 2147483647 then some (.ofInt v) else none

/-- The exit code in a text such as `Exited (137) 2 hours ago`. Only the first place that has its
form counts, even if the number there cannot be read. -/
def parse? (text : String) : Option Int32 := do
  let (negative, digits) ← firstMatch? text.toList
  value? negative digits

/-- The exit code of an exited container whose text has none. -/
def unknown : Int32 := -1

end ExitCode

/-- The reason of a container that the engine cannot describe. -/
def ContainerState.completedReason : String := "Completed"

/-- The state that a report, or its absence, stands for. -/
def ContainerState.ofReport : Option Report → ContainerState
  | some r =>
    if r.label = Report.runningLabel then .running r.createdAt
    else if r.label = Report.exitedLabel then
      .terminated r.raw ((ExitCode.parse? r.raw).getD ExitCode.unknown)
    else .terminated completedReason 0
  | none => .terminated completedReason 0

end Podkeeper
