/-
Socket addresses.

An address is four numbers up to 255, or eight groups of up to four hexadecimal digits in square
brackets, and a port. Between the groups `::` may stand once for one or more groups of zeros, and
the last two groups may be four numbers. An address is written out in its shortest form.
-/

import Podkeeper.Text.Digit

namespace Podkeeper

inductive Address where
  /-- Four numbers. -/
  | short (parts : List Nat) (port : Nat)
  /-- Eight groups. -/
  | long (groups : List Nat) (scope port : Nat)
deriving DecidableEq, Repr

namespace Address

/-! ### Reading -/

/-- What a reading gives: a value and the characters behind it, or nothing. -/
abbrev Reading (α : Type) := List Char → Option (α × List Char)

def mark (c : Char) : Reading Unit
  | d :: rest => if d = c then some ((), rest) else none
  | [] => none

/-- The digits at the front in a base up to 16. -/
def digits (base : Nat) (cs : List Char) : List Nat :=
  (cs.takeWhile fun c => (Digit.hex? c).any (· < base)).map fun c => (Digit.hex? c).getD 0

/-- A number in a base: at least one digit, at most `width` digits if that is given, and not
above a limit. Where zeros may not lead, only zero itself begins with one. -/
def number (base : Nat) (width : Option Nat) (mayLead : Bool) (limit : Nat) : Reading Nat :=
  fun cs =>
    let ds := digits base cs
    let n := ds.foldl (fun n d => n * base + d) 0
    if ds.isEmpty || width.any (· < ds.length) || limit < n then none
    else if !mayLead && ds.head? = some 0 && 1 < ds.length then none
    else some (n, cs.drop ds.length)

def quad : Reading (List Nat) := fun cs => do
  let part := number 10 (some 3) false 255
  let (a, cs) ← part cs
  let (_, cs) ← mark '.' cs
  let (b, cs) ← part cs
  let (_, cs) ← mark '.' cs
  let (c, cs) ← part cs
  let (_, cs) ← mark '.' cs
  let (d, cs) ← part cs
  some ([a, b, c, d], cs)

/-- A colon, unless it is the first group that comes. -/
def separated {α : Type} (first : Bool) (read : Reading α) : Reading α := fun cs => do
  let (_, cs) ← if first then some ((), cs) else mark ':' cs
  read cs

/-- The two groups that four numbers make. -/
def paired : List Nat → List Nat
  | [a, b, c, d] => [a * 256 + b, c * 256 + d]
  | _ => []

/-- Up to `room` groups between colons, and whether they end with four numbers. -/
def groups : Nat → Bool → List Char → (List Nat × Bool) × List Char
  | 0, _, cs => (([], false), cs)
  | room + 1, first, cs =>
    match if 0 < room then separated first quad cs else none with
    | some (q, rest) => ((paired q, true), rest)
    | none =>
      match separated first (number 16 (some 4) true 0xFFFF) cs with
      | none => (([], false), cs)
      | some (g, rest) =>
        let ((gs, isQuad), rest) := groups room false rest
        ((g :: gs, isQuad), rest)

/-- Eight groups, some of them left out. -/
def octet : Reading (List Nat) := fun cs => do
  let ((head, isQuad), cs) := groups 8 true cs
  if head.length = 8 then return (head, cs)
  if isQuad then none
  let (_, cs) ← mark ':' cs
  let (_, cs) ← mark ':' cs
  let ((tail, _), cs) := groups (7 - head.length) true cs
  some (head ++ List.replicate (8 - head.length - tail.length) 0 ++ tail, cs)

def portOf : Reading Nat := fun cs => do
  let (_, cs) ← mark ':' cs
  number 10 none true 0xFFFF cs

def shortOf : Reading Address := fun cs => do
  let (parts, cs) ← quad cs
  let (port, cs) ← portOf cs
  some (.short parts port, cs)

/-- A percent sign and a scope. -/
def scopeOf : Reading Nat := fun cs => do
  let (_, cs) ← mark '%' cs
  number 10 none true 0xFFFFFFFF cs

/-- Eight groups in brackets, perhaps with a scope, and a port. -/
def longOf : Reading Address := fun cs => do
  let (_, cs) ← mark '[' cs
  let (gs, cs) ← octet cs
  let (scope, cs) := (scopeOf cs).getD (0, cs)
  let (_, cs) ← mark ']' cs
  let (port, cs) ← portOf cs
  some (.long gs scope port, cs)

/-- The address that a text is. -/
def parse? (s : String) : Option Address :=
  match (shortOf s.toList).or (longOf s.toList) with
  | some (address, []) => some address
  | _ => none

/-! ### Writing -/

/-- Numbers between points. -/
def dotted (parts : List Nat) : String := ".".intercalate (parts.map toString)

def hexText (n : Nat) : String := .ofList (Nat.toDigits 16 n)

/-- Groups between colons. -/
def colons (gs : List Nat) : String := ":".intercalate (gs.map hexText)

/-- The number of zeros at the front. -/
def zeros (gs : List Nat) : Nat := (gs.takeWhile (· = 0)).length

/-- The place and the length of the longest run of zeros, the first of several. -/
def longestRun (place : Nat) : List Nat → Nat × Nat
  | [] => (place, 0)
  | g :: gs =>
    let here := zeros (g :: gs)
    let (later, length) := longestRun (place + 1) gs
    if length ≤ here then (place, here) else (later, length)

/-- Eight groups in their shortest form. -/
def groupsText (gs : List Nat) : String :=
  match gs with
  | [0, 0, 0, 0, 0, 0xFFFF, a, b] => "::ffff:" ++ dotted [a / 256, a % 256, b / 256, b % 256]
  | _ =>
    let (place, length) := longestRun 0 gs
    if 1 < length then colons (gs.take place) ++ "::" ++ colons (gs.drop (place + length))
    else colons gs

/-- An address in its shortest form. -/
def text : Address → String
  | .short parts port => s!"{dotted parts}:{port}"
  | .long gs 0 port => s!"[{groupsText gs}]:{port}"
  | .long gs scope port => s!"[{groupsText gs}%{scope}]:{port}"

end Address

end Podkeeper
