import NotebookKernel.Proofs.Encoding
import NotebookKernel.Proofs.TokenSpans

/-!
# Slices at any offsets

The token of a span and what is before its cursor are cut out of a text that need not be the one
that was scanned. Whatever the offsets are, the bytes at which the text is cut are in order, lie
within the text and are boundaries between characters, so there is a slice, and it is the
characters between the offsets as far as the text goes.
-/

namespace NotebookKernel

namespace Utf8

/-- No character starts with this byte. -/
def Continues (b : UInt8) : Prop := 0x80 ≤ b ∧ b ≤ 0xBF

/-- The text starts or ends at the byte, or the byte is the first one of a character. -/
def Boundary (bs : Bytes) (n : Nat) : Prop :=
  n = 0 ∨ n = bs.length ∨ ∃ b, bs[n]? = some b ∧ ¬Continues b

theorem lead_continues {b : UInt8} (h : Continues b) : lead b = none := by
  have low : 0x80 ≤ b.toNat := UInt8.le_iff_toNat_le.mp h.1
  have high : b.toNat ≤ 0xBF := UInt8.le_iff_toNat_le.mp h.2
  rw [lead_eq]
  grind

/-- The first byte of a character continues none. -/
theorem encodeChar_starts (c : Char) :
    ∃ b more, String.utf8EncodeChar c = b :: more ∧ ¬Continues b := by
  obtain ⟨b, more, bytes, part⟩ := firstPart_encodeChar c []
  refine ⟨b, more, bytes, fun continues => ?_⟩
  have wide : ¬b < 0x80 := UInt8.not_lt.mpr continues.1
  rw [firstPart, if_neg wide, lead_continues continues] at part
  cases part

end Utf8

namespace TokenSpan

open Utf8

/-- The byte at which a character starts is the length of the text before it. -/
theorem byteOffset_eq (text : List Char) (n : Nat) :
    byteOffset text n = (encode (text.take n)).length := by
  induction text generalizing n with
  | nil => simp [byteOffset]
  | cons c rest ih =>
    cases n with
    | zero => simp [byteOffset]
    | succ n => simp [byteOffset, ih]

theorem encode_take_drop (text : List Char) (n : Nat) :
    encode text = encode (text.take n) ++ encode (text.drop n) := by
  rw [← encode_append, List.take_append_drop]

theorem byteOffset_le (text : List Char) (n : Nat) :
    byteOffset text n ≤ (encode text).length := by
  rw [byteOffset_eq, encode_take_drop text n, List.length_append]
  exact Nat.le_add_right _ _

theorem byteOffset_mono (text : List Char) {m n : Nat} (ordered : m ≤ n) :
    byteOffset text m ≤ byteOffset text n := by
  obtain ⟨k, rfl⟩ := Nat.exists_eq_add_of_le ordered
  rw [byteOffset_add]
  exact Nat.le_add_right _ _

/-- Every offset falls between two characters, the ones beyond the text on its end. -/
theorem boundary_byteOffset (text : List Char) (n : Nat) :
    Boundary (encode text) (byteOffset text n) := by
  have whole := encode_take_drop text n
  cases rest : text.drop n with
  | nil =>
    rw [rest, encode_nil, List.append_nil] at whole
    exact .inr (.inl (by rw [byteOffset_eq, ← whole]))
  | cons c cs =>
    obtain ⟨b, more, bytes, starts⟩ := encodeChar_starts c
    rw [rest, encode_cons, bytes, List.cons_append] at whole
    refine .inr (.inr ⟨b, ?_, starts⟩)
    rw [byteOffset_eq, whole, List.getElem?_append_right (Nat.le_refl _), Nat.sub_self]
    rfl

/-- The bytes between two offsets are those of the characters between them. -/
theorem encode_extract (text : List Char) {start stop : Nat} (ordered : start ≤ stop) :
    encode (text.extract start stop) =
      (encode text).extract (byteOffset text start) (byteOffset text stop) := by
  obtain ⟨k, rfl⟩ := Nat.exists_eq_add_of_le ordered
  have behind : encode text =
      encode (text.take start) ++ (encode ((text.drop start).take k) ++
        encode ((text.drop start).drop k)) :=
    (encode_take_drop text start).trans (congrArg _ (encode_take_drop (text.drop start) k))
  have width : byteOffset text (start + k) - byteOffset text start =
      (encode ((text.drop start).take k)).length := by
    rw [byteOffset_add, Nat.add_sub_cancel_left, byteOffset_eq]
  rw [List.extract_eq_take_drop, List.extract_eq_take_drop, width, byteOffset_eq,
    Nat.add_sub_cancel_left, behind, List.drop_left, List.take_left]

/-- A part of a text between two offsets, and how it is cut out of the bytes of the text. -/
structure CutsOut (text : List Char) (start stop : Nat) (part : List Char) : Prop where
  ordered : byteOffset text start ≤ byteOffset text (max stop start)
  within : byteOffset text (max stop start) ≤ (encode text).length
  starts : Boundary (encode text) (byteOffset text start)
  stops : Boundary (encode text) (byteOffset text (max stop start))
  cut : cut? text (byteOffset text start) (byteOffset text (max stop start)) = some part
  bytes : encode part =
    (encode text).extract (byteOffset text start) (byteOffset text (max stop start))
  chars : ∀ n, part[n]? = if start + n < max start stop then text[start + n]? else none

theorem slice_cutsOut (text : List Char) (start stop : Nat) :
    CutsOut text start stop (slice text start stop) := by
  have order : start ≤ max stop start := Nat.le_max_right stop start
  have cut := cut?_byteOffset text order
  have part : slice text start stop = text.extract start (max stop start) := by
    rw [slice, cut, Option.getD_some]
  refine ⟨byteOffset_mono text order, byteOffset_le text _, boundary_byteOffset text _,
    boundary_byteOffset text _, part ▸ cut, part ▸ encode_extract text order, fun n => ?_⟩
  have same : n < max stop start - start ↔ start + n < max start stop := by omega
  rw [part, List.extract_eq_take_drop, List.getElem?_take]
  simp only [same, List.getElem?_drop]

/-- Whatever span is put to a text, the token and the part before the cursor are cut out between
two boundaries of the text, and are the characters from the start of the span on, up to its end or
its cursor. There are none if that is before the start, and none beyond the text. -/
theorem slices_exact (s : TokenSpan) (text : List Char) :
    CutsOut text s.start s.cursor (s.before text) ∧ CutsOut text s.start s.stop (s.token text) :=
  ⟨slice_cutsOut text s.start s.cursor, slice_cutsOut text s.start s.stop⟩

/-- A span whose cursor is before its start, and which ends beyond the text. -/
example :
    let s : TokenSpan := ⟨0, 1, 9⟩
    s.before "λxö".toList = [] ∧ s.token "λxö".toList = ['x', 'ö'] := by decide

end TokenSpan

end NotebookKernel
