import NotebookKernel.Text.Utf8

/-!
# Hexadecimal text

Bytes are written with two lowercase digits each. Reading accepts either case and
an even number of digits only.
-/

namespace NotebookKernel.Hex

def digit (n : Nat) : Char :=
  if n < 10 then Char.ofNat (48 + n) else Char.ofNat (87 + n)

/-- The value of a digit of either case. -/
def value? (c : Char) : Option Nat :=
  let n := c.toNat
  if 48 ≤ n ∧ n ≤ 57 then some (n - 48)
  else if 97 ≤ n ∧ n ≤ 102 then some (n - 87)
  else if 65 ≤ n ∧ n ≤ 70 then some (n - 55)
  else none

def ofByte (b : UInt8) : List Char :=
  [digit (b.toNat / 16), digit (b.toNat % 16)]

def encode (bs : Bytes) : List Char :=
  bs.flatMap ofByte

/-- The bytes that a run of digits denotes. -/
def decode? : List Char → Option Bytes
  | [] => some []
  | [_] => none
  | a :: b :: rest =>
      match value? a, value? b, decode? rest with
      | some x, some y, some bs => some (UInt8.ofNat (16 * x + y) :: bs)
      | _, _, _ => none

/-- Digits of a number without leading zeros, at least one. -/
def ofNat (n : Nat) : String :=
  String.ofList ((Nat.toDigits 16 n))

end NotebookKernel.Hex
