/-!
# Durations in messages

A duration is written in the largest unit of which it holds at least one, with as
many decimals as it needs.
-/

namespace NotebookKernel

/-- A length of time, in nanoseconds. -/
structure Duration where
  nanos : Nat
  deriving DecidableEq, Repr

namespace Duration

def ofMillis (ms : Nat) : Duration := ⟨ms * 1000000⟩

def millis (d : Duration) : Nat := d.nanos / 1000000

/-- The decimals of `part / 10 ^ digits`, without zeros at the end. -/
def decimals (part digits : Nat) : List Char :=
  let ds := Nat.toDigits 10 part
  let padded := List.replicate (digits - ds.length) '0' ++ ds
  let kept := (padded.reverse.dropWhile (· == '0')).reverse
  if kept = [] then [] else '.' :: kept

/-- `n` in units of `10 ^ digits`. -/
def inUnit (n digits : Nat) (unit : String) : String :=
  let one := Nat.pow 10 digits
  toString (n / one) ++ String.ofList (decimals (n % one) digits) ++ unit

def text (d : Duration) : String :=
  if 1000000000 ≤ d.nanos then inUnit d.nanos 9 "s"
  else if 1000000 ≤ d.nanos then inUnit d.nanos 6 "ms"
  else if 1000 ≤ d.nanos then inUnit d.nanos 3 "µs"
  else inUnit d.nanos 0 "ns"

end Duration

end NotebookKernel
