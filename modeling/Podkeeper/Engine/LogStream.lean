/-
Streams of logs.

The engine sends a log as frames: eight bytes with the origin and the length, then the payload.
A container with a terminal sends lines without such a head; no line begins like a head does.
`chunks` cuts the bytes into their pieces, and `collect` puts the pieces together again, up to a
limit and without what the container was sent. A fault counts only if it comes before the limit.
-/

import Podkeeper.Failure

namespace Podkeeper.Engine

/-- Things that arrive one after the other, a fault being the end. -/
abbrev Stream (α : Type) := List (Except EngineFault α)

/-- The first fault of a stream. -/
def Stream.outcome {α : Type} : Stream α → Except EngineFault Unit
  | [] => .ok ()
  | .ok _ :: rest => Stream.outcome rest
  | .error fault :: _ => .error fault

/-- Where a piece of a log comes from. -/
inductive Origin where
  /-- What the container was sent. -/
  | input
  | output
  | errors
  /-- The terminal, where output and errors are one. -/
  | terminal
deriving DecidableEq, Repr

structure LogChunk where
  origin : Origin
  bytes : Bytes
deriving DecidableEq, Repr

namespace LogChunk

/-! ### Cutting -/

/-- The byte that ends a line. -/
def newline : UInt8 := 0x0A

/-- The origin in the head of a frame. -/
def origin? (b : UInt8) : Option Origin :=
  if b = 0 then some .input
  else if b = 1 then some .output
  else if b = 2 then some .errors
  else none

/-- The number of four bytes, the greatest first. -/
def length (a b c d : UInt8) : Nat :=
  ((a.toNat * 256 + b.toNat) * 256 + c.toNat) * 256 + d.toNat

/-- The rest of a list after the first element with a property is shorter than the list. -/
theorem length_of_dropWhile_eq_cons {α : Type} {p : α → Bool} {l : List α} {a : α} {rest : List α}
    (h : l.dropWhile p = a :: rest) : rest.length < l.length := by
  have := (List.dropWhile_sublist (l := l) p).length_le
  rw [h] at this
  exact this

/-- The pieces of the bytes of a log. -/
def chunks (bytes : Bytes) : Stream LogChunk :=
  match bytes with
  | [] => []
  | kind :: more =>
    match origin? kind with
    | none =>
      match _h : (kind :: more).dropWhile (· ≠ newline) with
      | [] => [.error .broken]
      | last :: rest =>
        .ok ⟨.terminal, (kind :: more).takeWhile (· ≠ newline) ++ [last]⟩ :: chunks rest
    | some origin =>
      match more with
      | _ :: _ :: _ :: a :: b :: c :: d :: rest =>
        let size := length a b c d
        let body := rest.take size
        if body.length < size then
          if rest.isEmpty then [] else [.error .broken]
        else .ok ⟨origin, body⟩ :: chunks (rest.drop size)
      | _ => [.error .broken]
termination_by bytes.length
decreasing_by
  · exact length_of_dropWhile_eq_cons _h
  · simp only [List.length_cons, List.length_drop]
    omega

/-! ### Collecting -/

/-- What a piece adds to a log. -/
def payload (c : LogChunk) : Bytes := if c.origin = .input then [] else c.bytes

/-- The log that is wanted: all of it, or so many bytes. -/
def collect (limit : Option Nat) : Stream LogChunk → Except EngineFault Bytes
  | [] => .ok []
  | .error fault :: _ => .error fault
  | .ok c :: rest =>
    match limit with
    | none => (collect none rest).map (c.payload ++ ·)
    | some n =>
      if n ≤ c.payload.length then .ok (c.payload.take n)
      else (collect (some (n - c.payload.length)) rest).map (c.payload ++ ·)

end LogChunk

end Podkeeper.Engine
