/-!
# Binary floating point, exactly

A finite binary64 value is a sign, a mantissa below 2^53 and an exponent. The
operations are exact rational arithmetic followed by one rounding to nearest,
ties to even; a result that would be infinite is absent.

Nothing is said here about not-a-number, which no text in this library denotes.
-/

namespace NotebookKernel

/-- The value `± mantissa * 2 ^ exponent`. -/
structure Binary64 where
  negative : Bool
  mantissa : Nat
  exponent : Int
  deriving Repr, DecidableEq

namespace Binary64

/-- The least exponent, that of the subnormal numbers. -/
def minExponent : Int := -1074

/-- The exponent of the largest finite numbers. -/
def maxExponent : Int := 971

/-- The least mantissa of 53 bits. -/
def leadingBit : Nat := 0x10000000000000

def zero : Binary64 := ⟨false, 0, minExponent⟩

/-- A quotient rounded to the nearest integer, a half to the even one. -/
def roundDiv (num den : Nat) : Nat :=
  let q := num / den
  let r := num % den
  if 2 * r < den then q else if den < 2 * r then q + 1 else q + q % 2

/-- The ratio `num / den` divided by `2 ^ e`, again as a ratio. -/
def shiftRatio (num den : Nat) (e : Int) : Nat × Nat :=
  if 0 ≤ e then (num, den * Nat.pow 2 e.toNat) else (num * Nat.pow 2 (-e).toNat, den)

/-- The exponent at which a positive ratio has a mantissa of 53 bits. -/
def fullExponent (num den : Nat) : Int :=
  let guess : Int := (num.log2 : Int) - (den.log2 : Int) - 52
  let (n, d) := shiftRatio num den guess
  if n < d * leadingBit then guess - 1 else guess

/-- The value nearest to `num / den`, or nothing if it is beyond the finite ones. -/
def ofRatio (num den : Nat) : Option Binary64 :=
  if num = 0 then some zero
  else
    let e := max (fullExponent num den) minExponent
    let (n, d) := shiftRatio num den e
    let m := roundDiv n d
    let (m, e) := if m = 2 * leadingBit then (leadingBit, e + 1) else (m, e)
    if maxExponent < e then none else some ⟨false, m, e⟩

/-- The nearest value to a natural number. -/
def ofNat (n : Nat) : Option Binary64 := ofRatio n 1

/-- Magnitude of the product, rounded. -/
def mul (a b : Binary64) : Option Binary64 :=
  let (den, num) := shiftRatio 1 (a.mantissa * b.mantissa) (a.exponent + b.exponent)
  ofRatio num den

/-- Magnitude of the quotient, rounded; the divisor is not zero. -/
def div (a b : Binary64) : Option Binary64 :=
  let (den, num) := shiftRatio b.mantissa a.mantissa (a.exponent - b.exponent)
  ofRatio num den

def withSign (negative : Bool) (x : Binary64) : Binary64 :=
  { x with negative := negative }

def isZero (x : Binary64) : Bool := x.mantissa == 0

/-- A power of ten, rounded. -/
def powerOfTen (k : Nat) : Option Binary64 := ofNat (Nat.pow 10 k)

/-- The decimal `significand * 10 ^ exponent`, read with at most two roundings after the
significand's own: the significand times or divided by a rounded power of ten. Powers beyond
`10 ^ 308` are applied in two parts. -/
def ofDecimal (significand : Nat) (exponent : Int) : Option Binary64 := do
  let f ← ofNat significand
  if 0 ≤ exponent then
    if exponent ≤ 308 then mul f (← powerOfTen exponent.toNat)
    else if f.isZero then some f
    else none
  else if -308 ≤ exponent then div f (← powerOfTen (-exponent).toNat)
  else
    let g ← div f (← powerOfTen 308)
    if -616 ≤ exponent then div g (← powerOfTen (-exponent - 308).toNat)
    else some zero

end Binary64

end NotebookKernel
