/-
The values of plain scalars.

A plain scalar stands for nothing, a flag, a number or itself. Whole numbers are decimal, or
hexadecimal, octal or binary behind `0x`, `0o` and `0b`; digits behind a leading zero are a text.
A tag can demand one of these kinds.
-/

import Podkeeper.Decimal.Shortest
import Podkeeper.Wire.Fault
import Podkeeper.Yaml.Scalar

namespace Podkeeper.Yaml

/-! ### Words -/

def isNullWord (s : String) : Bool := s == "null" || s == "Null" || s == "NULL" || s == "~"

def flag? (s : String) : Option Bool :=
  if s == "true" || s == "True" || s == "TRUE" then some true
  else if s == "false" || s == "False" || s == "FALSE" then some false
  else none

/-! ### Whole numbers -/

/-- The value of a digit in a base up to 16. -/
def digitIn? (base : Nat) (c : Char) : Option Nat := (Digit.hex? c).filter (· < base)

/-- The number of digits in a base; there is at least one. -/
def digits? (base : Nat) (cs : List Char) : Option Nat :=
  if cs.isEmpty then none
  else cs.foldl (fun n c => do some ((← n) * base + (← digitIn? base c))) (some 0)

/-- A leading zero before other digits, after a sign if there is one. -/
def isZeroPadded (cs : List Char) : Bool :=
  let cs := match cs with
    | '-' :: rest | '+' :: rest => rest
    | _ => cs
  1 < cs.length && cs.head? == some '0' && cs.tail.all Char.isDigit

/-- The digits behind a base mark, and the base. -/
def based? : List Char → Option (Nat × List Char)
  | '0' :: 'x' :: rest => some (16, rest)
  | '0' :: 'o' :: rest => some (8, rest)
  | '0' :: 'b' :: rest => some (2, rest)
  | _ => none

/-- A whole number without a minus sign. -/
def unsigned? (s : String) : Option Nat :=
  let cs := s.toList
  let body := if cs.head? = some '+' then cs.tail else cs
  match based? body with
  | some (base, digits) => digits? base digits
  | none => if isZeroPadded cs then none else digits? 10 body

/-- The magnitude of a whole number with a minus sign. -/
def negative? (s : String) : Option Nat :=
  match s.toList with
  | '-' :: body =>
    match based? body with
    | some (base, digits) => digits? base digits
    | none => if isZeroPadded ('-' :: body) then none else digits? 10 body
  | _ => none

def whole? (s : String) : Option Int :=
  match unsigned? s with
  | some n => some n
  | none => (negative? s).map fun n => -n

/-! ### Fractions -/

/-- A number with a fraction, an exponent, or both: its digits as a whole number and the power of
ten. -/
def decimal? (cs : List Char) : Option (Nat × Int) := do
  let whole := cs.takeWhile Char.isDigit
  let rest := cs.drop whole.length
  let (fraction, rest) := match rest with
    | '.' :: rest => (rest.takeWhile Char.isDigit, rest.dropWhile Char.isDigit)
    | _ => ([], rest)
  if whole.isEmpty && fraction.isEmpty then none
  let n ← digits? 10 (whole ++ fraction)
  match rest with
  | [] => some (n, -fraction.length)
  | e :: rest =>
    if e ≠ 'e' ∧ e ≠ 'E' then none
    let (below, rest) := match rest with
      | '+' :: rest => (false, rest)
      | '-' :: rest => (true, rest)
      | _ => (false, rest)
    if !rest.all Char.isDigit then none
    let p ← digits? 10 rest
    some (n, (if below then -(p : Int) else p) - fraction.length)

/-- The double nearest to `n · 10^power`; none beyond the greatest. Powers that can only give
zero or too much are not computed. -/
def nearest (negative : Bool) (n : Nat) (power : Int) : Option Double :=
  let size : Int := (toString n).length + power
  if n = 0 ∨ size < -400 then some (.zero negative)
  else if 400 < size then none
  else if 0 ≤ power then Double.ofRatio negative (n * Nat.pow 10 power.toNat) 1
  else Double.ofRatio negative n (Nat.pow 10 (-power).toNat)

/-- A number that need not be whole. -/
inductive Real where
  | finite (x : Double)
  /-- An infinity or what is not a number, as messages write it. -/
  | special (written : String)
deriving DecidableEq, Repr

/-- A number that need not be whole. -/
def real? (s : String) : Option Real :=
  let positive := if s.startsWith "+" then (s.drop 1).toString else s
  if positive == ".inf" || positive == ".Inf" || positive == ".INF" then some (.special "inf")
  else if s == "-.inf" || s == "-.Inf" || s == "-.INF" then some (.special "-inf")
  else if s == ".nan" || s == ".NaN" || s == ".NAN" then some (.special "NaN")
  else do
    let (negative, cs) := match s.toList with
      | '-' :: rest => (true, rest)
      | '+' :: rest => (false, rest)
      | cs => (false, cs)
    let (n, power) ← decimal? cs
    (nearest negative n power).map .finite

/-! ### Values -/

/-- What a scalar stands for. -/
inductive Meaning where
  | null
  | flag (b : Bool)
  | whole (n : Int)
  | real (x : Real)
  | text (s : String)
deriving DecidableEq, Repr

/-- A number that fits 64 bits, signed or unsigned. -/
def isNarrow (n : Int) : Bool := -9223372036854775808 ≤ n && n ≤ 18446744073709551615

/-- A number that fits 128 bits, signed or unsigned. -/
def isWide (n : Int) : Bool :=
  -170141183460469231731687303715884105728 ≤ n && n ≤ 340282366920938463463374607431768211455

/-- What a plain scalar without a tag stands for. -/
def Meaning.ofPlain (s : String) : Meaning :=
  if s = "" || isNullWord s then .null
  else
    match flag? s with
    | some b => .flag b
    | none =>
      match (whole? s).filter isWide with
      | some n => .whole n
      | none =>
        if isZeroPadded s.toList then .text s
        else
          match real? s with
          | some x => .real x
          | none => .text s

/-- How a message calls what a scalar stands for. -/
def Meaning.found : Meaning → Wire.Found
  | .null => .unit
  | .flag b => .flag b
  | .whole n => if isNarrow n then .whole n else .wide n
  | .real (.finite x) => .fraction x.plainText
  | .real (.special written) => .fraction written
  | .text s => .text s

/-! ### Tags -/

/-- The exclamation mark, with which the tags of a text's own begin. -/
def tagMark : UInt8 := 0x21

/-- The whole tag of a kind. -/
def coreTag (kind : String) : Bytes := Utf8.ofString ("tag:yaml.org,2002:" ++ kind)

/-- What a scalar stands for; a fault if it does not fit its tag. -/
def meaning (tag : Option Bytes) (s : String) (style : Style) : Except Wire.Fault Meaning :=
  let demand (m : Option Meaning) (expected : String) : Except Wire.Fault Meaning :=
    match m with
    | some m => .ok m
    | none => .error (.value (.text s) expected)
  let untagged := if style = .plain then Meaning.ofPlain s else .text s
  match tag with
  | none => .ok untagged
  | some tag =>
    if tag = coreTag "bool" then demand ((flag? s).map .flag) "a boolean"
    else if tag = coreTag "int" then demand (((whole? s).filter isWide).map .whole) "an integer"
    else if tag = coreTag "float" then demand ((real? s).map .real) "a float"
    else if tag = coreTag "null" then
      demand (if isNullWord s then some .null else none) "null"
    else if tag.head? = some tagMark then .ok untagged
    else .ok (.text s)

/-- A scalar of a kind may be plain, or a literal block with the tag of the kind. -/
def mayBe (kind : String) (tag : Option Bytes) (style : Style) : Bool :=
  style == .plain || (style == .literal && tag == some (coreTag kind))

/-- The name that a tag gives, if it begins with an exclamation mark and is a text. -/
def tagName? (tag : Option Bytes) : Option String := do
  match (← tag) with
  | b :: rest =>
    if b ≠ tagMark then none else Utf8.decode? (if rest.isEmpty then [b] else rest)
  | [] => none

end Podkeeper.Yaml
