import NotebookKernel.Number.Binary64

/-!
# Shortest decimal text of a binary number

A finite value is written with the fewest significant digits that read back, and
among those with the digits nearest to it. `Layout` says where positional
notation ends.
-/

namespace NotebookKernel

namespace Shortest

/-- A positive value and the ends of the interval that rounds to it, over one denominator. -/
structure Interval where
  low : Nat
  value : Nat
  high : Nat
  den : Nat
  closed : Bool

/-- The numbers that round to `x`. Below a power of two the neighbour is half as far away. -/
def interval (x : Binary64) : Interval :=
  let unit := if 0 ≤ x.exponent then Nat.pow 2 x.exponent.toNat else 1
  let den := if 0 ≤ x.exponent then 4 else 4 * Nat.pow 2 (-x.exponent).toNat
  let value := 4 * x.mantissa * unit
  let below :=
    if x.mantissa = Binary64.leadingBit ∧ Binary64.minExponent < x.exponent then unit else 2 * unit
  ⟨value - below, value, value + 2 * unit, den, x.mantissa % 2 = 0⟩

/-- Is `d * 10 ^ k` in the interval? -/
def Interval.contains (i : Interval) (d : Nat) (k : Int) : Bool :=
  let p := if 0 ≤ k then d * Nat.pow 10 k.toNat * i.den else d * i.den
  let s := if 0 ≤ k then 1 else Nat.pow 10 (-k).toNat
  if i.closed then i.low * s ≤ p && p ≤ i.high * s else i.low * s < p && p < i.high * s

/-- Is `10 ^ e` at most the value? -/
def Interval.atLeastPower (i : Interval) (e : Int) : Bool :=
  if 0 ≤ e then Nat.pow 10 e.toNat * i.den ≤ i.value
  else i.den ≤ i.value * Nat.pow 10 (-e).toNat

/-- The decimal exponent of the first digit. -/
def Interval.decimalExponent (i : Interval) : Int :=
  let guess : Int := (((i.value.log2 : Int) - (i.den.log2 : Int)) * 30103).fdiv 100000
  if i.atLeastPower (guess + 1) then guess + 1
  else if i.atLeastPower guess then guess
  else guess - 1

/-- The value divided by `10 ^ k`, as a ratio. -/
def Interval.quotient (i : Interval) (k : Int) : Nat × Nat :=
  if 0 ≤ k then (i.value, i.den * Nat.pow 10 k.toNat) else (i.value * Nat.pow 10 (-k).toNat, i.den)

/-- The better of the two neighbours of the value on the grid of multiples of `10 ^ k`. -/
def Interval.onGrid (i : Interval) (k : Int) : Option Nat :=
  let (n, d) := i.quotient k
  let floor := n / d
  let rest := n % d
  match i.contains floor k, i.contains (floor + 1) k with
  | true, true =>
      if 2 * rest < d then some floor
      else if d < 2 * rest then some (floor + 1)
      else some (floor + floor % 2)
  | true, false => some floor
  | false, true => some (floor + 1)
  | false, false => none

/-- Try grids of ever finer step; the one with 17 digits always has a point in the interval. -/
def Interval.search (i : Interval) (first : Int) : Nat → Nat → Nat × Int
  | 0, digits =>
      let k := first - digits + 1
      ((i.quotient k).1 / (i.quotient k).2, k)
  | fuel + 1, digits =>
      let k := first - digits + 1
      match i.onGrid k with
      | some d => (d, k)
      | none => i.search first fuel (digits + 1)

/-- Drop the zeros at the end of the digits. -/
def stripZeros : Nat → Nat → Int → Nat × Int
  | 0, d, k => (d, k)
  | fuel + 1, d, k => if d % 10 = 0 ∧ d ≠ 0 then stripZeros fuel (d / 10) (k + 1) else (d, k)

/-- The digits `d` and exponent `k` of the shortest decimal `d * 10 ^ k` for a nonzero value. -/
def decimal (x : Binary64) : Nat × Int :=
  let i := interval x
  let (d, k) := i.search i.decimalExponent 17 1
  stripZeros 20 d k

/-- Decimal exponents written positionally, from `lowest` to `highest`. -/
structure Layout where
  lowest : Int
  highest : Int

/-- Numbers in JSON text: positional from `0.00001` up to sixteen integer digits, then `1e+16`. -/
def jsonLayout : Layout := ⟨-5, 15⟩

def zeros (n : Nat) : List Char := List.replicate n '0'

/-- Digits with a point, at least one digit on either side of it. -/
def positional (ds : List Char) (first : Int) : List Char :=
  if first < 0 then '0' :: '.' :: zeros (-first - 1).toNat ++ ds
  else
    let whole := first.toNat + 1
    if ds.length ≤ whole then ds ++ zeros (whole - ds.length) ++ ['.', '0']
    else ds.take whole ++ '.' :: ds.drop whole

/-- Digits with an explicit exponent, signed either way. -/
def scientific (ds : List Char) (first : Int) : List Char :=
  let mantissa := match ds with
    | [] => []
    | [d] => [d]
    | d :: more => d :: '.' :: more
  let sign := if first < 0 then '-' else '+'
  mantissa ++ 'e' :: sign :: (Nat.toDigits 10 first.natAbs)

/-- The text of a finite value. -/
def render (layout : Layout) (x : Binary64) : List Char :=
  let body :=
    if x.isZero then ['0', '.', '0']
    else
      let (d, k) := decimal x
      let ds := Nat.toDigits 10 d
      let first := k + (ds.length : Int) - 1
      if layout.lowest ≤ first ∧ first ≤ layout.highest then positional ds first
      else scientific ds first
  if x.negative then '-' :: body else body

end Shortest

end NotebookKernel
