/-
What an engine is asked.

There are eight things that an engine is asked, each with its own kind of answer. A dialogue asks
for some of them in turn. It leaves open how the questions travel, and any answers may come.
-/

import Podkeeper.Engine.Creation
import Podkeeper.Engine.LogStream
import Podkeeper.Interaction
import Podkeeper.Time.Reader
import Podkeeper.Wire.Source

namespace Podkeeper.Engine

/-! ### Inspections -/

/-- The state of a container in the words of the engine. -/
inductive RunState where
  | created
  | running
  | paused
  | restarting
  | removing
  | exited
  | dead
deriving DecidableEq, Repr

def RunState.word : RunState → String
  | .created => "created"
  | .running => Report.runningLabel
  | .paused => "paused"
  | .restarting => "restarting"
  | .removing => "removing"
  | .exited => Report.exitedLabel
  | .dead => "dead"

/-- What the engine says about a container, as far as it says it. -/
structure Inspection where
  state : Option RunState
  exitCode : Option Int64
  /-- The time of creation as it is written. -/
  created : Option String
deriving DecidableEq, Repr

namespace Inspection

def label (i : Inspection) : String :=
  match i.state with
  | some s => s.word
  | none => "unknown"

/-- The line of text of a report. -/
def raw (i : Inspection) : String :=
  match i.state with
  | some .exited =>
    match i.exitCode with
    | some code => s!"Exited ({code.toInt})"
    | none => "Exited"
  | some .running => "Up"
  | _ => i.label

/-- The time of creation; now, if none can be read. -/
def createdAt (now : Instant) (i : Inspection) : Instant :=
  (i.created.bind fun text => (Instant.strict text).toOption).getD now

def report (now : Instant) (i : Inspection) : Report := ⟨i.label, i.raw, i.createdAt now⟩

end Inspection

/-! ### Windows -/

/-- The part of a log that the engine is asked for. -/
structure LogWindow where
  /-- The number of lines at the end; all, if there is none. -/
  tail : Option UInt64
  /-- The first second that is wanted. -/
  since : Int
  timestamps : Bool
deriving DecidableEq, Repr

namespace LogWindow

/-- The second that is sent for an instant: the engine takes 32 bits, and what does not fit
becomes the greatest number. -/
def second (t : Instant) : Int :=
  if Wire.Range.i32.holds t.seconds then t.seconds else Wire.Range.i32.high

/-- The window that options select; the limit of bytes is not part of it. -/
def ofOptions (now : Instant) (o : LogOptions) : LogWindow :=
  ⟨o.tailLines, ((o.since now).map second).getD 0, o.timestamps⟩

end LogWindow

/-! ### Questions and answers -/

/-- Something that an engine is asked. -/
inductive Ask where
  /-- To answer at all. -/
  | ping
  /-- Whether it has an image. -/
  | findImage (image : String)
  /-- To fetch an image, telling how it gets on. -/
  | pullImage (image : String)
  | create (name : String) (creation : Creation)
  | start (id : String)
  /-- To remove a container, also a running one if forced, and its volumes if wanted. -/
  | remove (id : String) (force volumes : Bool)
  | inspect (id : String)
  | readLog (id : String) (window : LogWindow)
deriving DecidableEq, Repr

abbrev Ask.Answer : Ask → Type
  | .ping | .findImage _ | .start _ | .remove _ _ _ => Except EngineFault Unit
  | .pullImage _ => Stream Unit
  | .create _ _ => Except EngineFault String
  | .inspect _ => Except EngineFault Inspection
  | .readLog _ _ => Stream LogChunk

abbrev Dialogue := Interaction Ask.Answer

end Podkeeper.Engine
