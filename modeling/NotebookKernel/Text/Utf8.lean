/-!
# Bytes and UTF-8

Frames, files and process output are byte sequences. This module reads them as
text: strictly, with the place and length of the first malformed part, or
leniently, with U+FFFD for every maximal malformed part.

Only well-formed UTF-8 (no overlong forms, no surrogates, nothing above
U+10FFFF) is accepted.
-/

namespace NotebookKernel

/-- A frame, a file or the output of a process. -/
abbrev Bytes := List UInt8

namespace Utf8

/-- Where text stops being UTF-8. `badLength` is absent when the input ends inside a character. -/
structure Fault where
  validUpTo : Nat
  badLength : Option Nat
  deriving Repr, DecidableEq

/-- The sentence that reports a malformed byte sequence. -/
def Fault.message (f : Fault) : String :=
  match f.badLength with
  | some n => s!"invalid utf-8 sequence of {n} bytes from index {f.validUpTo}"
  | none => s!"incomplete utf-8 byte sequence from index {f.validUpTo}"

/-- What a leading byte promises: its own bits, the bounds of the second byte, and the bytes to
follow. -/
structure Lead where
  bits : Nat
  low : UInt8
  high : UInt8
  following : Nat

def lead (b : UInt8) : Option Lead :=
  if 0xC2 ≤ b ∧ b ≤ 0xDF then some ⟨b.toNat - 0xC0, 0x80, 0xBF, 1⟩
  else if b = 0xE0 then some ⟨0, 0xA0, 0xBF, 2⟩
  else if b = 0xED then some ⟨0xD, 0x80, 0x9F, 2⟩
  else if 0xE1 ≤ b ∧ b ≤ 0xEF then some ⟨b.toNat - 0xE0, 0x80, 0xBF, 2⟩
  else if b = 0xF0 then some ⟨0, 0x90, 0xBF, 3⟩
  else if b = 0xF4 then some ⟨4, 0x80, 0x8F, 3⟩
  else if 0xF1 ≤ b ∧ b ≤ 0xF3 then some ⟨b.toNat - 0xF0, 0x80, 0xBF, 3⟩
  else none

/-- The first part of a byte sequence. Lengths are those of the part itself. -/
inductive Part where
  | char (c : Char) (length : Nat)
  | malformed (length : Nat)
  | truncated (length : Nat)

/-- Collect the bytes after the second one; `seen` counts the bytes of this part so far. -/
def continuation (bits : Nat) (seen : Nat) : Nat → Bytes → Part
  | 0, _ => .char (Char.ofNat bits) seen
  | _ + 1, [] => .truncated seen
  | n + 1, b :: rest =>
      if 0x80 ≤ b ∧ b ≤ 0xBF then
        continuation (bits * 64 + (b.toNat - 0x80)) (seen + 1) n rest
      else .malformed seen

/-- The first part of `b :: rest`. -/
def firstPart (b : UInt8) (rest : Bytes) : Part :=
  if b < 0x80 then .char (Char.ofNat b.toNat) 1
  else match lead b with
    | none => .malformed 1
    | some l =>
        match rest with
        | [] => .truncated 1
        | c :: more =>
            if l.low ≤ c ∧ c ≤ l.high then
              continuation (l.bits * 64 + (c.toNat - 0x80)) 2 (l.following - 1) more
            else .malformed 1

/-- Length of a part; never zero for a part of a nonempty input. -/
def Part.length : Part → Nat
  | .char _ n => n
  | .malformed n => n
  | .truncated n => n

/-- Read characters from position `start` on, newest first in `acc`. -/
def decodeFrom (start : Nat) (acc : List Char) : Bytes → Except Fault (List Char)
  | [] => .ok acc.reverse
  | b :: rest =>
      match firstPart b rest with
      | .char c n => decodeFrom (start + n) (c :: acc) (rest.drop (n - 1))
      | .malformed n => .error ⟨start, some n⟩
      | .truncated _ => .error ⟨start, none⟩
termination_by bs => bs.length
decreasing_by simp only [List.length_drop, List.length_cons]; omega

/-- Strict reading. -/
def decode (bs : Bytes) : Except Fault (List Char) :=
  decodeFrom 0 [] bs

/-- Strict reading as a string. -/
def toString? (bs : Bytes) : Option String :=
  match decode bs with
  | .ok cs => some (String.ofList cs)
  | .error _ => none

/-- Lenient reading: each malformed part becomes one replacement character. -/
def lossyFrom (acc : List Char) : Bytes → List Char
  | [] => acc.reverse
  | b :: rest =>
      match firstPart b rest with
      | .char c n => lossyFrom (c :: acc) (rest.drop (n - 1))
      | .malformed n => lossyFrom ('\uFFFD' :: acc) (rest.drop (n - 1))
      | .truncated n => lossyFrom ('\uFFFD' :: acc) (rest.drop (n - 1))
termination_by bs => bs.length
decreasing_by all_goals (simp only [List.length_drop, List.length_cons]; omega)

def lossy (bs : Bytes) : String :=
  String.ofList (lossyFrom [] bs)

/-- The bytes of a text. -/
def encode (cs : List Char) : Bytes :=
  cs.flatMap String.utf8EncodeChar

end Utf8

/-- The UTF-8 bytes of a string. -/
def utf8 (s : String) : Bytes :=
  Utf8.encode s.toList

end NotebookKernel
