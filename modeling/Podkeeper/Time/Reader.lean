/-
Reading instants.

The strict form is that of RFC 3339: fixed widths, a `T`, a `t` or a blank between date and time,
and an offset. The relaxed form also admits blanks between the parts, parts with fewer digits,
years with a sign, and offsets with any number of colons or blanks. What is wrong first in the
text is reported, and the date before the time.
-/

import Podkeeper.Text.Blank
import Podkeeper.Text.Utf8
import Podkeeper.Time.Instant

namespace Podkeeper.Instant

/-- Why a text is no instant. -/
inductive Refusal where
  | outOfRange
  | impossible
  | invalid
  | tooShort
  | tooLong
deriving DecidableEq, Repr

def Refusal.message : Refusal → String
  | .outOfRange => "input is out of range"
  | .impossible => "no possible date and time matching input"
  | .invalid => "input contains invalid characters"
  | .tooShort => "premature end of input"
  | .tooLong => "trailing input"

/-- Reads a part of a text and leaves the rest. -/
abbrev Part (α : Type) := List Char → Except Refusal (α × List Char)

/-! ### Parts -/

def digit? (c : Char) : Option Nat :=
  if '0' ≤ c ∧ c ≤ '9' then some (c.toNat - 0x30) else none

def skipBlanks (cs : List Char) : List Char := cs.dropWhile isBlank

/-- Takes at most `max` digits. -/
def takeDigits : Nat → List Char → List Nat × List Char
  | 0, cs => ([], cs)
  | _, [] => ([], [])
  | max + 1, c :: cs =>
    match digit? c with
    | some d => let (ds, rest) := takeDigits max cs; (d :: ds, rest)
    | none => ([], c :: cs)

/-- A number of `min` to `max` digits that fits 63 bits. -/
def number (min max : Nat) : Part Nat := fun cs =>
  if (Utf8.encode cs).length < min then .error .tooShort
  else
    let (ds, rest) := takeDigits max cs
    if ds.length < min then .error .invalid
    else
      let n := ds.foldl (fun n d => n * 10 + d) 0
      if n ≤ 9223372036854775807 then .ok (n, rest) else .error .outOfRange

def bounded (low high : Nat) (part : Part Nat) : Part Nat := fun cs => do
  let (n, rest) ← part cs
  if low ≤ n ∧ n ≤ high then .ok (n, rest) else .error .outOfRange

def letter (c : Char) : Part Unit
  | [] => .error .tooShort
  | c' :: rest => if c' = c then .ok ((), rest) else .error .invalid

/-- What separates a date from a time. -/
def separator : Part Unit
  | [] => .error .tooShort
  | c :: rest => if c = 't' ∨ c = 'T' ∨ c = ' ' then .ok ((), rest) else .error .invalid

/-- A fraction of a second in nanoseconds, if there is one; digits after the ninth are dropped. -/
def fraction : Part Nat
  | '.' :: cs => do
    let (n, rest) ← number 1 9 cs
    let count := cs.length - rest.length
    .ok (n * Nat.pow 10 (9 - count), rest.dropWhile fun c => (digit? c).isSome)
  | cs => .ok (0, cs)

/-- Two characters, or what is wrong with fewer bytes. -/
def pair : List Char → Except Refusal (Char × Char × List Char)
  | [] => .error .tooShort
  | [c] => if Utf8.width c < 2 then .error .tooShort else .error .invalid
  | a :: b :: rest => .ok (a, b, rest)

/-- An offset from universal time in seconds: `Z`, or a sign, hours, what `between` drops, and
minutes. -/
def offset (between : List Char → Except Refusal (List Char)) : Part Int := fun cs => do
  match cs with
  | 'Z' :: rest | 'z' :: rest => .ok (0, rest)
  | [] => .error .tooShort
  | sign :: cs =>
    let negative ←
      if sign = '+' then .ok false
      else if sign = '-' ∨ sign = '−' then .ok true
      else .error .invalid
    let (h₁, h₂, cs) ← pair cs
    let hours ← match digit? h₁, digit? h₂ with
      | some a, some b => .ok (a * 10 + b)
      | _, _ => .error .invalid
    let (m₁, m₂, cs) ← pair (← between cs)
    let minutes ← match digit? m₁, digit? m₂ with
      | some a, some b => if a ≤ 5 then .ok (a * 10 + b) else .error .outOfRange
      | _, _ => .error .invalid
    let seconds : Int := hours * 3600 + minutes * 60
    .ok (if negative then -seconds else seconds, cs)

/-! ### Putting the parts together -/

/-- Date, time of day and offset as they were read. -/
structure Written where
  year : Int
  month : Nat
  day : Nat
  hour : Nat
  minute : Nat
  second : Nat
  nanos : Nat
  offset : Int

/-- The instant of a date, a time and an offset. -/
def ofWritten (w : Written) : Except Refusal Instant :=
  let date : Date := ⟨w.year, w.month, w.day⟩
  if !date.isValid then .error .outOfRange
  else if w.offset ≤ -86400 ∨ 86400 ≤ w.offset then .error .outOfRange
  else
    let leap := w.second = 60
    let second := if leap then 59 else w.second
    let seconds := date.toDays * 86400 + w.hour * 3600 + w.minute * 60 + second - w.offset
    let t : Instant := ⟨seconds, if leap then w.nanos + 1000000000 else w.nanos⟩
    if t.isValid then .ok t else .error .impossible

/-- The year fits 32 bits. -/
def yearFits (y : Int) : Except Refusal Int :=
  if -2147483648 ≤ y ∧ y ≤ 2147483647 then .ok y else .error .outOfRange

/-- A year of the relaxed form: up to four digits, or any number of them after a sign. -/
def relaxedYear : Part Int := fun cs => do
  match cs with
  | '-' :: cs =>
    let (n, rest) ← number 1 cs.length.succ cs
    .ok (← yearFits (-n), rest)
  | '+' :: cs =>
    let (n, rest) ← number 1 cs.length.succ cs
    .ok (← yearFits n, rest)
  | cs =>
    let (n, rest) ← number 1 4 cs
    .ok (n, rest)

/-- A part of the relaxed form: one or two digits after blanks. -/
def relaxedPart (low high : Nat) : Part Nat := fun cs =>
  bounded low high (number 1 2) (skipBlanks cs)

/-- A separator of the relaxed form, after blanks. -/
def relaxedLetter (c : Char) : Part Unit := fun cs => letter c (skipBlanks cs)

/-- The letters `UTC` in any case. -/
def universal? : List Char → Option (List Char)
  | a :: b :: c :: rest =>
    if a.toUpper = 'U' ∧ b.toUpper = 'T' ∧ c.toUpper = 'C' then some rest else none
  | _ => none

/-- The offset of the relaxed form. -/
def relaxedOffset : Part Int := fun cs =>
  match universal? cs with
  | some rest => .ok (0, rest)
  | none => offset (fun cs => .ok (cs.dropWhile fun c => c = ':' || isBlank c)) cs

def relaxed (text : String) : Except Refusal Instant := do
  let (year, cs) ← relaxedYear (skipBlanks text.toList)
  let (_, cs) ← relaxedLetter '-' cs
  let (month, cs) ← relaxedPart 1 12 cs
  let (_, cs) ← relaxedLetter '-' cs
  let (day, cs) ← relaxedPart 1 31 cs
  let (_, cs) ← separator cs
  let (hour, cs) ← relaxedPart 0 23 cs
  let (_, cs) ← relaxedLetter ':' cs
  let (minute, cs) ← relaxedPart 0 59 cs
  let (_, cs) ← relaxedLetter ':' cs
  let (second, cs) ← relaxedPart 0 60 cs
  let (nanos, cs) ← fraction cs
  let (offset, cs) ← relaxedOffset (skipBlanks cs)
  if !(skipBlanks cs).isEmpty then .error .tooLong
  else ofWritten ⟨year, month, day, hour, minute, second, nanos, offset⟩

def strict (text : String) : Except Refusal Instant := do
  let (year, cs) ← number 4 4 text.toList
  let (_, cs) ← letter '-' cs
  let (month, cs) ← bounded 1 12 (number 2 2) cs
  let (_, cs) ← letter '-' cs
  let (day, cs) ← bounded 1 31 (number 2 2) cs
  let (_, cs) ← separator cs
  let (hour, cs) ← bounded 0 23 (number 2 2) cs
  let (_, cs) ← letter ':' cs
  let (minute, cs) ← bounded 0 59 (number 2 2) cs
  let (_, cs) ← letter ':' cs
  let (second, cs) ← bounded 0 60 (number 2 2) cs
  let (nanos, cs) ← fraction cs
  let (offset, cs) ← offset (fun cs => (letter ':' cs).map (·.2)) cs
  if !cs.isEmpty then .error .tooLong
  else ofWritten ⟨year, month, day, hour, minute, second, nanos, offset⟩

end Podkeeper.Instant
