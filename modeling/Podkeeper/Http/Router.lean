/-
The HTTP surface.

Each path takes a few methods and hands the body, read as JSON, to an operation. Requests that
create or delete run detached: they go on when the client goes away, so that what is tracked and
what runs never drift apart. All others end with their client. Whatever cannot be read is answered
like any other invalid request.
-/

import Podkeeper.Json.Decode
import Podkeeper.Json.Printer
import Podkeeper.Lifecycle.Operations
import Podkeeper.Request.Decode
import Podkeeper.Request.Encode

namespace Podkeeper.Http

open Wire

/-- A request and what it is directed at. -/
structure Request where
  method : String
  target : String
  body : Bytes
deriving DecidableEq, Repr

/-- A response, with its type and the methods that a path takes, where they are given. -/
structure Response where
  status : Nat
  contentType : Option String
  allow : Option String
  body : Bytes
deriving DecidableEq, Repr

namespace Response

def plainText : String := "text/plain; charset=utf-8"

def text (status : Nat) (s : String) : Response := ⟨status, plainText, none, Utf8.ofString s⟩

/-- A status without a body. -/
def bare (status : Nat) (allow : Option String) : Response := ⟨status, none, allow, []⟩

/-- Bytes of no particular type. -/
def binary (bytes : Bytes) : Response := ⟨200, some "application/octet-stream", none, bytes⟩

def json (v : Json.Value) : Response := ⟨200, some "application/json", none, v.bytes⟩

/-- A failure: its status and its wording. -/
def failure (f : Failure) : Response := text f.status f.message

/-- The response without its body. -/
def head (r : Response) : Response := { r with body := [] }

end Response

/-! ### Targets -/

/-- A character of the name of a scheme. -/
def isSchemeChar (c : Char) : Bool := c.isAlphanum || c = '+' || c = '-' || c = '.'

/-- The character ends a path. -/
def endsPath (c : Char) : Bool := c = '?' || c = '#'

/-- What a target says behind its scheme and its host, if it names them. Without a scheme a host
has nothing behind it. -/
def behindHost (target : List Char) : List Char :=
  if target.head? = some '/' then target
  else
    match target.dropWhile isSchemeChar with
    | ':' :: '/' :: '/' :: rest =>
      match rest.dropWhile fun c => c ≠ '/' && !endsPath c with
      | '/' :: path => '/' :: path
      | query => '/' :: query
    | _ => []

/-- The path of a target, without a query and a fragment. -/
def pathOf (target : String) : String :=
  .ofList ((behindHost target.toList).takeWhile (!endsPath ·))

/-! ### Routes -/

/-- What a path leads to. -/
inductive Route where
  | create
  | delete
  | status
  | logs
  | health
deriving DecidableEq, Repr

namespace Route

def ofPath? (path : String) : Option Route :=
  match path with
  | "/create" => some .create
  | "/delete" => some .delete
  | "/status" => some .status
  | "/getLogs" => some .logs
  | "/health" => some .health
  | _ => none

/-- The methods that a route takes. -/
def methods : Route → List String
  | .create => ["POST"]
  | .delete => ["POST", "DELETE"]
  | .status | .logs => ["POST", "GET", "HEAD"]
  | .health => ["GET", "HEAD"]

def readsBody : Route → Bool
  | .health => false
  | _ => true

end Route

/-! ### Handling -/

/-- How a request is handled. -/
inductive Handling where
  /-- It is answered at once. -/
  | answered (r : Response)
  /-- A program answers it, and ends when the client goes away. -/
  | attached (p : Program Response)
  /-- A program answers it, and goes on when the client goes away. -/
  | detached (p : Program Response)

/-- The program that answers a request. -/
def Handling.program : Handling → Program Response
  | .answered r => .done r
  | .attached p | .detached p => p

/-- The request is handled also when the client goes away. -/
def Handling.isDetached : Handling → Bool
  | .detached _ => true
  | _ => false

/-- Changes the response of a request. -/
def Handling.map (f : Response → Response) : Handling → Handling
  | .answered r => .answered (f r)
  | .attached p => .attached (p.bind fun r => .done (f r))
  | .detached p => .detached (p.bind fun r => .done (f r))

/-- The response to what comes out of an operation. -/
def respond {α : Type} (write : α → Response) (o : Operation α) : Program Response := do
  match ← o.run with
  | .ok a => return write a
  | .error f => return .failure f

/-- A body read as JSON. -/
def decoded {α : Type} (read : Json.Cursor → Except Json.Refusal α) (body : Bytes)
    (handle : α → Handling) : Handling :=
  match Json.decode read body with
  | .ok a => handle a
  | .error e => .answered (.failure (.invalid (.unreadable e.message)))

/-- The greatest number of bytes in a body. -/
def maxBody : Nat := 2 * 1024 * 1024

/-- Handles a body with one of the methods of its route. -/
def Route.handle (site : Site) (body : Bytes) : Route → Handling
  | .create => decoded (Source.sequence CreateRequest.read) body fun requests =>
    .detached (respond (.text 200) (site.createFirst requests))
  | .delete => decoded PodRef.read body fun r =>
    .detached (respond (.text 200) (Site.deleteRef r))
  | .status => decoded (Source.sequence PodRef.read) body fun refs =>
    .attached (respond (fun statuses => .json (.list (statuses.map PodStatus.encode)))
      (Site.statusFirst refs))
  | .logs => decoded LogRequest.read body fun r => .attached (respond .binary (Site.logs r))
  | .health => .answered (.text 200 "ok")

def handle (site : Site) (r : Request) : Handling :=
  match Route.ofPath? (pathOf r.target) with
  | none => .answered (.bare 404 none)
  | some route =>
    if !route.methods.contains r.method then
      .answered (.bare 405 (",".intercalate route.methods))
    else
      let handling :=
        if route.readsBody && maxBody < r.body.length then
          .answered (.text 413 "Failed to buffer the request body: length limit exceeded")
        else route.handle site r.body
      if r.method = "HEAD" then handling.map .head else handling

end Podkeeper.Http
