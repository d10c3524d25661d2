/-
Requests for logs.

The options select a part of a log: its last lines, a number of bytes, or what came after an
instant. Zero means that nothing is selected, and so does any time up to the first second of 1970.
-/

import Podkeeper.Time.Instant

namespace Podkeeper

/-- Which part of a log is wanted. -/
structure LogOptions where
  tail : UInt64
  limitBytes : UInt64
  timestamps : Bool
  /-- Accepted; a log is always given as it is now. -/
  follow : Bool
  previous : Bool
  sinceSeconds : Int64
  sinceTime : Option Instant
deriving DecidableEq, Repr

/-- A request for the log of one container. -/
structure LogRequest where
  ns : String
  podUid : String
  podName : String
  /-- When empty, the first container. -/
  containerName : String
  options : LogOptions
deriving DecidableEq, Repr

namespace LogOptions

/-- Nothing is selected. -/
def all : LogOptions := ⟨0, 0, false, false, false, 0, none⟩

/-- Why options are refused. -/
inductive Conflict where
  | tailAndBytes
  | secondsAndTime
deriving DecidableEq, Repr

def Conflict.message : Conflict → String
  | .tailAndBytes => "Tail and Bytes cannot both be set"
  | .secondsAndTime => "SinceSeconds and SinceTime cannot both be set"

def tailLines (o : LogOptions) : Option UInt64 := if 0 < o.tail then some o.tail else none

def byteLimit (o : LogOptions) : Option UInt64 :=
  if 0 < o.limitBytes then some o.limitBytes else none

/-- The time that is set, if it counts. -/
def effectiveTime (o : LogOptions) : Option Instant := o.sinceTime.filter (0 < ·.seconds)

/-- Options that exclude each other are refused. -/
def check (o : LogOptions) : Except Conflict Unit :=
  if 0 < o.tail ∧ 0 < o.limitBytes then .error .tailAndBytes
  else if 0 < o.sinceSeconds ∧ o.effectiveTime.isSome then .error .secondsAndTime
  else .ok ()

/-- The greatest number of seconds that a span of time can have. -/
def maxSpan : Int := 9223372036854775

/-- The first instant that is wanted: so many seconds ago, or the time that is set. -/
def since (now : Instant) (o : LogOptions) : Option Instant :=
  if 0 < o.sinceSeconds then
    if o.sinceSeconds.toInt ≤ maxSpan then now.back o.sinceSeconds.toInt else none
  else o.effectiveTime

end LogOptions

end Podkeeper
