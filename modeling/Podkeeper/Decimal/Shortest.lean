/-
The shortest decimal of a double.

Of the decimals that round to a double the text shows one with the fewest digits, and of those
the nearest. A double stands for an interval of reals, its ends included if the significand is
even. For each count of digits from 1 to 17 the two decimals of that many digits around the value
are tried; seventeen digits always suffice.
-/

import Podkeeper.Decimal.Double

namespace Podkeeper

/-- The number `digits · 10^exponent`. -/
structure Decimal where
  digits : Nat
  exponent : Int
deriving DecidableEq, Repr

namespace Double

/-- The interval of magnitudes that round to `x`, in quarters of its unit: both ends, and whether
they belong to it. -/
def interval (x : Double) : Nat × Nat × Bool :=
  let m := x.significand
  let below := if m = leastFull ∧ minExponent < x.exponent then 1 else 2
  (4 * m - below, 4 * m + 2, m % 2 = 0)

/-- `digits · 10^exponent` compared with `quarters · 2^(e - 2)`, both scaled to naturals. -/
def compareQuarters (digits : Nat) (exponent : Int) (quarters : Nat) (e : Int) : Ordering :=
  let a := digits * (if 0 ≤ exponent then Nat.pow 10 exponent.toNat else 1) *
    (if e < 2 then Nat.pow 2 (2 - e).toNat else 1)
  let b := quarters * (if exponent < 0 then Nat.pow 10 (-exponent).toNat else 1) *
    (if 2 ≤ e then Nat.pow 2 (e - 2).toNat else 1)
  compare a b

/-- The decimal rounds to `x`. -/
def holds (x : Double) (d : Decimal) : Bool :=
  let (low, high, closed) := x.interval
  match compareQuarters d.digits d.exponent low x.exponent,
      compareQuarters d.digits d.exponent high x.exponent with
  | .gt, .lt => true
  | .eq, .lt | .gt, .eq => closed
  | _, _ => false

/-- The greatest `k` with `10^k ≤ num / den`, searched downward from a guess. -/
def magnitude (num den : Nat) : Int :=
  let guess : Int := (Int.fdiv (((num.log2 : Int) - den.log2 + 1) * 30103) 100000) + 1
  let atMost (k : Int) : Bool :=
    if 0 ≤ k then Nat.pow 10 k.toNat * den ≤ num else den ≤ num * Nat.pow 10 (-k).toNat
  if atMost guess then guess
  else if atMost (guess - 1) then guess - 1
  else if atMost (guess - 2) then guess - 2
  else guess - 3

/-- The two decimals in units of `10^k` around `num / den`, the nearer one first, and of two
equally near ones the even one. -/
def neighbours (num den : Nat) (k : Int) : List Decimal :=
  let (n, d) :=
    if 0 ≤ k then (num, den * Nat.pow 10 k.toNat) else (num * Nat.pow 10 (-k).toNat, den)
  let q := n / d
  let near := roundDiv n d
  [⟨near, k⟩, ⟨if near = q then q + 1 else q, k⟩]

/-- The first decimal that rounds to `x` among those with `count` digits and more. -/
def shortestFrom (x : Double) (num den : Nat) (top : Int) : Nat → Nat → Decimal
  | 0, _ => ⟨0, 0⟩
  | fuel + 1, count =>
    match (neighbours num den (top - count + 1)).find? x.holds with
    | some d => d
    | none => shortestFrom x num den top fuel (count + 1)

/-- The nearest of the shortest decimals that round to the magnitude of `x`. A single digit that
was rounded up to ten is the digit one of the next power. -/
def shortest (x : Double) : Decimal :=
  if x.isZero then ⟨0, 0⟩
  else
    let (num, den) := x.ratio
    let d := shortestFrom x num den (magnitude num den) 17 1
    if d.digits = 10 then ⟨1, d.exponent + 1⟩ else d

/-- Where positional notation ends: a value is written out if its decimal point falls at most
`before` digits after the first digit and at most `after` zeros before it. -/
structure TextStyle where
  before : Int
  after : Int

/-- Sixteen places before the point, five zeros after it; beyond that a signed exponent. -/
def textStyle : TextStyle := ⟨16, 5⟩

/-- The text of a double in a style: its shortest decimal, always with a point or an exponent. -/
def textIn (style : TextStyle) (x : Double) : String :=
  let sign := if x.negative then "-" else ""
  let d := x.shortest
  let ds := (toString d.digits).toList
  let count : Int := ds.length
  let point := count + d.exponent
  let zeros (n : Int) : List Char := List.replicate n.toNat '0'
  let body : List Char :=
    if x.isZero then ['0', '.', '0']
    else if 0 ≤ d.exponent ∧ point ≤ style.before then ds ++ zeros d.exponent ++ ['.', '0']
    else if 0 < point ∧ point ≤ style.before then
      ds.take point.toNat ++ '.' :: ds.drop point.toNat
    else if -style.after < point ∧ point ≤ 0 then '0' :: '.' :: zeros (-point) ++ ds
    else
      let mantissa := match ds with
        | [c] => [c]
        | c :: cs => c :: '.' :: cs
        | [] => []
      let e := point - 1
      let mark := if e < 0 then '-' else '+'
      mantissa ++ 'e' :: mark :: (toString e.natAbs).toList
  sign ++ .ofList body

def text (x : Double) : String := x.textIn textStyle

/-- No exponent at all. -/
def plainStyle : TextStyle := ⟨1000, 1000⟩

/-- The text of a double without an exponent. -/
def plainText (x : Double) : String := x.textIn plainStyle

end Double

end Podkeeper
