/-
Where an engine listens.

An engine listens at a socket, which is a path in the file system, or at an address of the
network. A host may be given in the settings; without one the environment is asked, and it counts
only if it names a socket. There is a usual socket for when nobody says anything.
-/

import Podkeeper.Failure

namespace Podkeeper.Engine

/-! ### Texts -/

/-- Drops a text from the beginning as often as it stands there. -/
def dropRepeated (start chars : List Char) : List Char :=
  if _h : start ≠ [] ∧ start.isPrefixOf chars then
    dropRepeated start (chars.drop start.length)
  else chars
termination_by chars.length
decreasing_by
  have := (List.isPrefixOf_iff_prefix.1 _h.2).length_le
  have := List.length_pos_iff.2 _h.1
  simp only [List.length_drop]
  omega

/-- Drops a text from the beginning, if it stands there. -/
def dropOnce (start chars : List Char) : List Char :=
  if start.isPrefixOf chars then chars.drop start.length else chars

/-- Drops the first place where a text stands. -/
def dropFirst (text : List Char) : List Char → List Char
  | [] => []
  | c :: rest =>
    if text.isPrefixOf (c :: rest) then (c :: rest).drop text.length
    else c :: dropFirst text rest

/-! ### Hosts -/

/-- Where an engine listens. -/
inductive Host where
  /-- At a socket: the path that its text names, and the path at which it is opened. These differ
  only where marks stand in unusual places. -/
  | socket (path opened : String)
  | network (address : String)
deriving DecidableEq, Repr

namespace Host

/-- What a socket's text begins with. -/
def socketMark : String := "unix://"

/-- What the text of a named pipe begins with. -/
def pipeMark : String := "npipe://"

/-- The socket of a text. All marks before the path are left out where it is named, and the first
mark where it is opened. -/
def ofText (text : String) : Host :=
  let mark := socketMark.toList
  .socket (.ofList (dropRepeated pipeMark.toList (dropRepeated mark text.toList)))
    (.ofList (dropFirst mark text.toList))

def usual : String := "unix:///var/run/docker.sock"

/-- The host of a setting, which may have one mark more, or of the environment. -/
def ofSetting (environment setting : Option String) : Host :=
  match setting with
  | some text =>
    if text.startsWith "tcp://" || text.startsWith "http://" then .network text
    else ofText (.ofList (dropOnce socketMark.toList text.toList))
  | none => ofText ((environment.filter (·.startsWith socketMark)).getD usual)

/-- A socket must be there; whether an address answers shows only later. -/
def check (isThere : String → Bool) : Host → Except RuntimeFailure Unit
  | .socket path opened =>
    if !isThere path then .error (.engine (.noSocket path))
    else if !isThere opened then .error (.engine (.noSocket opened))
    else .ok ()
  | .network _ => .ok ()

end Host

end Podkeeper.Engine
