/-
Exchanges with an engine.

A question travels as an HTTP request and its answer comes as a reply. A status of 200 to 299, or
304, is that of a success; any other comes with a message, or with a body that is taken for one.
What a success brings must be understood: a reply that does not hold what was asked for is as bad
as none at all.
-/

import Podkeeper.Engine.Ask
import Podkeeper.Engine.Details
import Podkeeper.Engine.Target
import Podkeeper.Json.Decode
import Podkeeper.Json.Printer

namespace Podkeeper.Engine

open Wire Wire.Source

/-! ### Requests -/

structure Request where
  method : String
  path : String
  query : List (String × String)
  body : Option Json.Value
deriving DecidableEq

def flagText (b : Bool) : String := if b then "true" else "false"

/-- The path under which an engine is asked, with the version of its interface. -/
def base : String := "/v1.49"

/-- A request without options: its target is all that it says. -/
def Request.plain (method address : String) : Request :=
  let target := Target.ofAddress (base ++ address)
  ⟨method, target.path, target.query, none⟩

/-- A request with options, which are its query. -/
def Request.withOptions (method address : String) (options : List (String × String))
    (body : Option Json.Value) : Request :=
  ⟨method, (Target.ofAddress (base ++ address)).path, options, body⟩

/-- The request that a question travels as. -/
def Ask.request : Ask → Request
  | .ping => .plain "GET" "/_ping"
  | .findImage image => .plain "GET" s!"/images/{image}/json"
  | .pullImage image =>
    .withOptions "POST" "/images/create" [("fromImage", image), ("platform", "")] none
  | .create name creation =>
    .withOptions "POST" "/containers/create" [("name", name), ("platform", "")] creation.encode
  | .start id => .plain "POST" s!"/containers/{id}/start"
  | .remove id force volumes =>
    .withOptions "DELETE" s!"/containers/{id}"
      [("v", flagText volumes), ("force", flagText force), ("link", flagText false)] none
  | .inspect id => .plain "GET" s!"/containers/{id}/json"
  | .readLog id window =>
    .withOptions "GET" s!"/containers/{id}/logs" [
      ("follow", flagText false), ("stdout", flagText true), ("stderr", flagText true),
      ("since", toString window.since), ("until", "0"),
      ("timestamps", flagText window.timestamps),
      ("tail", match window.tail with
        | some n => toString n.toNat
        | none => "all")] none

/-! ### Refusals -/

structure Reply where
  status : Nat
  body : Bytes
deriving DecidableEq, Repr

namespace Reply

/-- The status is that of a success. -/
def isSuccess (r : Reply) : Bool := (200 ≤ r.status && r.status < 300) || r.status = 304

def message {N : Type} {m : Type → Type} [Monad m] [Source N m] : N → m String :=
  record .lenient "message" (.required "message" text)

/-- What a refusal says: its message, or all of its body if that holds none. -/
def refusal (r : Reply) : EngineFault :=
  if r.body.isEmpty then .answered r.status ""
  else
    let written := Utf8.lossy r.body
    match Json.decode message (Utf8.ofString written) with
    | .ok text => .answered r.status text
    | .error (.syntaxError complaint) =>
      if complaint.isEnd then .broken else .answered r.status written
    | .error (.fault _) => .answered r.status written

def success (r : Reply) : Except EngineFault Bytes :=
  if r.isSuccess then .ok r.body else .error r.refusal

/-- What the body of a success says. -/
def said {α : Type} (read : Json.Cursor → Except Json.Refusal α) (r : Reply) :
    Except EngineFault α := do
  (Json.decode read (← r.success)).mapError fun _ => .broken

end Reply

/-! ### Records -/

section Records

open Details

variable {N : Type} {m : Type → Type} [Monad m] [Source N m]

/-- The name of a container that was made; warnings have to be there and do not matter. -/
def readCreated : N → m String :=
  record .exhaustive "creation" <|
    (fun id _ => id) <$> .required "Id" text <*> .required "Warnings" (option (sequence text))

/-- The state of a word; the empty word says nothing. -/
def RunState.ofWord? (word : String) : Option RunState :=
  [.created, .running, .paused, .restarting, .removing, .exited, .dead].find? (·.word == word)

/-- The words that an engine has for a state. -/
def RunState.words : List String :=
  ["", "created", "running", "paused", "restarting", "removing", "exited", "dead"]

/-- The state and the exit code of a container. -/
def readState : N → m (Option RunState × Option Int) :=
  record .exhaustive "state" <|
    (fun state _ code _ => (state.bind RunState.ofWord?, code))
      <$> maybe "Status" (choice RunState.words)
      <*> fields [
        ("Running", aFlag), ("Paused", aFlag), ("Restarting", aFlag),
        ("OOMKilled", aFlag), ("Dead", aFlag), ("Pid", aWhole)]
      <*> maybe "ExitCode" (whole .i64)
      <*> fields [
        ("Error", aText), ("StartedAt", aText), ("FinishedAt", aText),
        ("Health", health)]

def Inspection.read : N → m Inspection :=
  record .exhaustive "inspection" <|
    (fun _ created _ state _ =>
      ⟨state.bind (·.1), (state.bind (·.2)).map .ofInt, created⟩)
      <$> fields [("Id", aText)]
      <*> maybe "Created" text
      <*> fields [("Path", aText), ("Args", texts)]
      <*> maybe "State" readState
      <*> fields [
        ("Image", aText), ("ResolvConfPath", aText),
        ("HostnamePath", aText), ("HostsPath", aText),
        ("LogPath", aText), ("Name", aText), ("RestartCount", aWhole),
        ("Driver", aText), ("Platform", aText),
        ("ImageManifestDescriptor", descriptor), ("MountLabel", aText),
        ("ProcessLabel", aText), ("AppArmorProfile", aText),
        ("ExecIDs", texts), ("HostConfig", hostConfig),
        ("GraphDriver", graphDriver), ("SizeRw", aWhole),
        ("SizeRootFs", aWhole), ("Mounts", listOf mountPoint),
        ("Config", containerConfig), ("NetworkSettings", networks)]

/-- What is said about a pull: the text of an error, if there is one. -/
def readProgress : N → m (Option String) :=
  record .exhaustive "progress" <|
    (fun _ error _ => error)
      <$> fields [("id", aText)]
      <*> maybe "error" text
      <*> fields [
        ("errorDetail", object (fields [
          ("code", aWhole), ("message", aText)])),
        ("status", aText), ("progress", aText),
        ("progressDetail", object (fields [
          ("current", aWhole), ("total", aWhole)]))]

end Records

/-! ### Progress -/

inductive Line where
  | said (error : Option String)
  /-- It is a part of a value only. -/
  | unfinished
  | bad
deriving DecidableEq, Repr

def Line.read (bytes : Bytes) : Line :=
  match Json.decode readProgress bytes with
  | .ok error => .said error
  | .error (.syntaxError complaint) => if complaint.isEnd then .unfinished else .bad
  | .error (.fault _) => .bad

/-- What a line adds to a stream. -/
def Line.item : Option String → Except EngineFault Unit
  | none => .ok ()
  | some text => .error (.stream text)

/-- The progress of a pull, a value in each line. A value that is not finished at the end of its
line goes on in the next one, but only once. -/
def progress (joined : Bool) (bytes : Bytes) : Stream Unit :=
  match _h : bytes.dropWhile (· ≠ LogChunk.newline) with
  | [] =>
    if bytes.isEmpty then []
    else
      match Line.read bytes with
      | .said error => [Line.item error]
      | .unfinished | .bad => [.error .broken]
  | _ :: rest =>
    let line := bytes.takeWhile (· ≠ LogChunk.newline)
    match Line.read line with
    | .said error => Line.item error :: progress joined rest
    | .unfinished =>
      if !joined then progress true (line ++ rest)
      else if (line ++ rest).isEmpty then []
      else [.error .broken]
    | .bad => [.error .broken]
termination_by bytes.length
decreasing_by
  · exact LogChunk.length_of_dropWhile_eq_cons _h
  · have := congrArg List.length (List.takeWhile_append_dropWhile (p := (· ≠ LogChunk.newline))
      (l := bytes))
    rw [_h] at this
    simp only [List.length_append, List.length_cons] at this ⊢
    omega

/-! ### Answers -/

/-- The answer that a reply brings. -/
def Ask.understand (r : Reply) : (a : Ask) → a.Answer
  | .ping | .start _ | .remove _ _ _ => r.success.map fun _ => ()
  | .findImage _ => r.said Details.image
  | .pullImage _ =>
    match r.success with
    | .ok bytes => progress false bytes
    | .error fault => [.error fault]
  | .create _ _ => r.said readCreated
  | .inspect _ => r.said Inspection.read
  | .readLog _ _ =>
    match r.success with
    | .ok bytes => LogChunk.chunks bytes
    | .error fault => [.error fault]

/-- The answer when there is no reply. -/
def Ask.unanswered : (a : Ask) → a.Answer
  | .ping | .findImage _ | .start _ | .remove _ _ _ | .create _ _ | .inspect _ => .error .broken
  | .pullImage _ | .readLog _ _ => [.error .broken]

/-- Runs a dialogue over a connection; gives the requests that were made, too. -/
def converse {α : Type} (reply? : Request → Option Reply) (d : Dialogue α) : α × List Request :=
  let (a, requests) := d.runWith (fun ask requests =>
    let answer := match reply? ask.request with
      | some r => ask.understand r
      | none => ask.unanswered
    (answer, ask.request :: requests)) []
  (a, requests.reverse)

end Podkeeper.Engine
