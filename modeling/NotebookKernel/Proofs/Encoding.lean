import NotebookKernel.Text.Utf8
import NotebookKernel.Text.Hex

/-!
# Text as bytes, and bytes as digits

What is written as UTF-8 is read back as it was, and a run of digits denotes the bytes that
are written with these digits. Digits are read in either case, so reading inverts writing up
to the case of letters.
-/

namespace NotebookKernel

theorem toNat_byte {n : Nat} (small : n < 256) : (UInt8.ofNat n).toNat = n := by
  rw [UInt8.toNat_ofNat']
  exact Nat.mod_eq_of_lt small

theorem toNat_charOfNat {n : Nat} (valid : n.isValidChar) : (Char.ofNat n).toNat = n := by
  rw [Char.ofNat, dif_pos valid]
  rfl

theorem toNat_charOfByte (b : UInt8) : (Char.ofNat b.toNat).toNat = b.toNat := by
  have small : b.toNat < 256 := b.toNat_lt
  exact toNat_charOfNat (Or.inl (by omega))

namespace Utf8

@[simp] theorem encode_nil : encode [] = [] := rfl

@[simp] theorem encode_cons (c : Char) (cs : List Char) :
    encode (c :: cs) = String.utf8EncodeChar c ++ encode cs := List.flatMap_cons ..

@[simp] theorem encode_append (cs ds : List Char) : encode (cs ++ ds) = encode cs ++ encode ds :=
  List.flatMap_append

/-- A character of ASCII is one byte. -/
theorem encodeChar_ascii {c : Char} (small : c.toNat < 0x80) :
    String.utf8EncodeChar c = [UInt8.ofNat c.toNat] := by
  have one : c.val.toNat ≤ 127 := Nat.le_of_lt_succ small
  simp only [String.utf8EncodeChar, if_pos one]
  rfl

/-! ## Reading one character -/

/-- What a leading byte promises, by its number. -/
theorem lead_eq (b : UInt8) : lead b =
    if 0xC2 ≤ b.toNat ∧ b.toNat ≤ 0xDF then some ⟨b.toNat - 0xC0, 0x80, 0xBF, 1⟩
    else if b.toNat = 0xE0 then some ⟨0, 0xA0, 0xBF, 2⟩
    else if b.toNat = 0xED then some ⟨0xD, 0x80, 0x9F, 2⟩
    else if 0xE1 ≤ b.toNat ∧ b.toNat ≤ 0xEF then some ⟨b.toNat - 0xE0, 0x80, 0xBF, 2⟩
    else if b.toNat = 0xF0 then some ⟨0, 0x90, 0xBF, 3⟩
    else if b.toNat = 0xF4 then some ⟨4, 0x80, 0x8F, 3⟩
    else if 0xF1 ≤ b.toNat ∧ b.toNat ≤ 0xF3 then some ⟨b.toNat - 0xF0, 0x80, 0xBF, 3⟩
    else none := by
  simp only [lead, UInt8.le_iff_toNat_le, ← UInt8.toNat_inj]
  rfl

/-- The leading byte of the two for a number from `0x80` on. -/
theorem lead_of_two {v : Nat} (low : 0x80 ≤ v) (high : v < 0x800) :
    lead (UInt8.ofNat (v / 64 % 32 + 192)) = some ⟨v / 64, 0x80, 0xBF, 1⟩ := by
  rw [lead_eq, toNat_byte (by omega), if_pos (by omega),
    show v / 64 % 32 + 192 - 0xC0 = v / 64 by omega]

/-- The leading byte of the three for a number from `0x800` on, and the bounds within which the
second byte lies. Numbers of surrogates are left out. -/
theorem lead_of_three {v : Nat} (low : 0x800 ≤ v) (high : v < 0x10000)
    (valid : v < 0xD800 ∨ 0xDFFF < v) :
    ∃ l, lead (UInt8.ofNat (v / 4096 % 16 + 224)) = some l ∧ l.bits = v / 4096 ∧
      l.following = 2 ∧ l.low.toNat ≤ v / 64 % 64 + 128 ∧ v / 64 % 64 + 128 ≤ l.high.toNat := by
  rw [lead_eq, toNat_byte (by omega)]
  by_cases least : v / 4096 = 0
  · exact ⟨_, by simp [least]; rfl, by simp [least], rfl, by simp; omega, by simp; omega⟩
  · by_cases gap : v / 4096 = 13
    · exact ⟨_, by simp [gap]; rfl, by simp [gap], rfl, by simp, by simp; omega⟩
    · refine ⟨⟨v / 4096, 0x80, 0xBF, 2⟩, ?_, rfl, rfl, by simp, by simp; omega⟩
      rw [if_neg (by omega), if_neg (by omega), if_neg (by omega), if_pos (by omega)]
      simp
      omega

/-- The leading byte of the four for a number from `0x10000` on, and the bounds within which the
second byte lies. -/
theorem lead_of_four {v : Nat} (low : 0x10000 ≤ v) (high : v < 0x110000) :
    ∃ l, lead (UInt8.ofNat (v / 262144 % 8 + 240)) = some l ∧ l.bits = v / 262144 ∧
      l.following = 3 ∧ l.low.toNat ≤ v / 4096 % 64 + 128 ∧
      v / 4096 % 64 + 128 ≤ l.high.toNat := by
  rw [lead_eq, toNat_byte (by omega)]
  by_cases least : v / 262144 = 0
  · exact ⟨_, by simp [least]; rfl, by simp [least], rfl, by simp; omega, by simp; omega⟩
  · by_cases last : v / 262144 = 4
    · exact ⟨_, by simp [last]; rfl, by simp [last], rfl, by simp, by simp; omega⟩
    · refine ⟨⟨v / 262144, 0x80, 0xBF, 3⟩, ?_, rfl, rfl, by simp, by simp; omega⟩
      rw [if_neg (by omega), if_neg (by omega), if_neg (by omega), if_neg (by omega),
        if_neg (by omega), if_neg (by omega), if_pos (by omega)]
      simp
      omega

/-- A leading byte and a second one within its bounds. -/
theorem firstPart_led {b d : UInt8} {more : Bytes} {l : Lead} (found : lead b = some l)
    (low : l.low.toNat ≤ d.toNat) (high : d.toNat ≤ l.high.toNat) :
    firstPart b (d :: more) =
      continuation (l.bits * 64 + (d.toNat - 0x80)) 2 (l.following - 1) more := by
  have wide : ¬b < 0x80 := by
    rw [UInt8.lt_iff_toNat_lt]
    intro small
    have below : b.toNat < 0x80 := small
    rw [lead_eq] at found
    grind
  have fits : l.low ≤ d ∧ d ≤ l.high :=
    ⟨UInt8.le_iff_toNat_le.mpr low, UInt8.le_iff_toNat_le.mpr high⟩
  simp only [firstPart, if_neg wide, found, if_pos fits]

/-- A continuation byte adds its six bits. -/
theorem continuation_cons {bits seen n v : Nat} {rest : Bytes} :
    continuation bits seen (n + 1) (UInt8.ofNat (v % 64 + 128) :: rest) =
      continuation (bits * 64 + v % 64) (seen + 1) n rest := by
  have number := toNat_byte (n := v % 64 + 128) (by omega)
  have low : 0x80 ≤ UInt8.ofNat (v % 64 + 128) := by
    rw [UInt8.le_iff_toNat_le, number]
    exact Nat.le_add_left ..
  have high : UInt8.ofNat (v % 64 + 128) ≤ 0xBF := by
    rw [UInt8.le_iff_toNat_le, number]
    exact Nat.le_of_lt_succ (Nat.add_lt_add_right (Nat.mod_lt v (by decide)) 128)
  rw [continuation, if_pos ⟨low, high⟩, number, Nat.add_sub_cancel]

/-- The bytes of a character are read as that character. -/
theorem firstPart_encodeChar (c : Char) (rest : Bytes) :
    ∃ b more, String.utf8EncodeChar c = b :: more ∧
      firstPart b (more ++ rest) = .char c (more.length + 1) := by
  have known : Char.ofNat c.val.toNat = c := Char.ofNat_toNat c
  have valid : c.val.toNat < 0xD800 ∨ 0xDFFF < c.val.toNat ∧ c.val.toNat < 0x110000 := c.valid
  unfold String.utf8EncodeChar
  generalize c.val.toNat = v at known valid ⊢
  have second : ∀ w : Nat, (UInt8.ofNat (w % 64 + 128)).toNat = w % 64 + 128 :=
    fun w => toNat_byte (by omega)
  simp only
  split
  · have first := toNat_byte (n := v) (by omega)
    have small : UInt8.ofNat v < 0x80 := by
      rw [UInt8.lt_iff_toNat_lt, first]
      exact Nat.lt_succ_of_le ‹_›
    exact ⟨_, _, rfl, by simp [firstPart, small, first, known]⟩
  · split
    · have found := lead_of_two (v := v) (by omega) (by omega)
      refine ⟨_, _, rfl, ?_⟩
      rw [List.singleton_append, firstPart_led found (by rw [second]; simp)
        (by rw [second]; simp; omega), second,
        show v / 64 * 64 + (v % 64 + 128 - 0x80) = v by omega]
      simp [continuation, known]
    · split
      · obtain ⟨l, found, bits, following, low, high⟩ :=
          lead_of_three (v := v) (by omega) (by omega) (by omega)
        refine ⟨_, _, rfl, ?_⟩
        rw [List.cons_append, firstPart_led found (by rw [second]; exact low)
          (by rw [second]; exact high), second, bits, following, List.singleton_append,
          continuation_cons,
          show (v / 4096 * 64 + (v / 64 % 64 + 128 - 0x80)) * 64 + v % 64 = v by omega]
        simp [continuation, known]
      · obtain ⟨l, found, bits, following, low, high⟩ :=
          lead_of_four (v := v) (by omega) (by omega)
        refine ⟨_, _, rfl, ?_⟩
        rw [List.cons_append, firstPart_led found (by rw [second]; exact low)
          (by rw [second]; exact high), second, bits, following, List.cons_append,
          continuation_cons, List.singleton_append, continuation_cons,
          show ((v / 262144 * 64 + (v / 4096 % 64 + 128 - 0x80)) * 64 + v / 64 % 64) * 64 + v % 64 =
            v by omega]
        simp [continuation, known]

/-! ## Reading a text -/

theorem decodeFrom_encode (cs : List Char) (start : Nat) (acc : List Char) :
    decodeFrom start acc (encode cs) = .ok (acc.reverse ++ cs) := by
  induction cs generalizing start acc with
  | nil => simp [decodeFrom]
  | cons c cs ih =>
    obtain ⟨b, more, bytes, part⟩ := firstPart_encodeChar c (encode cs)
    rw [encode_cons, bytes, List.cons_append, decodeFrom, part]
    simp [ih]

/-- What was written is read back. -/
theorem decode_encode (cs : List Char) : decode (encode cs) = .ok cs :=
  decodeFrom_encode cs 0 []

theorem toString?_encode (s : String) : toString? (encode s.toList) = some s := by
  rw [toString?, decode_encode]
  exact congrArg some String.ofList_toList

end Utf8

namespace Hex

/-- The small letter of a capital one; any other byte as it is. -/
def smallLetter (b : UInt8) : UInt8 := if 0x41 ≤ b ∧ b ≤ 0x5A then b + 0x20 else b

/-- The byte of a digit. -/
def digitByte (n : Nat) : UInt8 := UInt8.ofNat (if n < 10 then 48 + n else 87 + n)

theorem toNat_smallLetter (b : UInt8) : (smallLetter b).toNat =
    if 0x41 ≤ b.toNat ∧ b.toNat ≤ 0x5A then b.toNat + 0x20 else b.toNat := by
  have same : (0x41 ≤ b ∧ b ≤ 0x5A) ↔ (0x41 ≤ b.toNat ∧ b.toNat ≤ 0x5A) := by
    rw [UInt8.le_iff_toNat_le, UInt8.le_iff_toNat_le]
    rfl
  unfold smallLetter
  by_cases capital : 0x41 ≤ b.toNat ∧ b.toNat ≤ 0x5A
  · rw [if_pos (same.mpr capital), if_pos capital, UInt8.toNat_add]
    exact Nat.mod_eq_of_lt (by simp; omega)
  · rw [if_neg fun h => capital (same.mp h), if_neg capital]

theorem toNat_digitByte {n : Nat} (small : n < 16) :
    (digitByte n).toNat = if n < 10 then 48 + n else 87 + n := by
  unfold digitByte
  split
  · exact toNat_byte (by omega)
  · exact toNat_byte (by omega)

theorem value?_lt {c : Char} {x : Nat} (h : value? c = some x) : x < 16 := by
  unfold value? at h
  grind

/-- A byte is read as a digit just when it is written as that digit, up to the case of
letters. -/
theorem value?_eq_some (b : UInt8) {x : Nat} (small : x < 16) :
    value? (Char.ofNat b.toNat) = some x ↔ smallLetter b = digitByte x := by
  rw [← UInt8.toNat_inj, toNat_smallLetter, toNat_digitByte small]
  simp only [value?, toNat_charOfByte]
  grind

theorem encodeChar_digit {n : Nat} (small : n < 16) :
    String.utf8EncodeChar (digit n) = [digitByte n] := by
  have number : (digit n).toNat = if n < 10 then 48 + n else 87 + n := by
    unfold digit
    split
    · exact toNat_charOfNat (Or.inl (by omega))
    · exact toNat_charOfNat (Or.inl (by omega))
  rw [Utf8.encodeChar_ascii (by rw [number]; split <;> omega), number]
  rfl

/-- Two digits for each byte. -/
theorem encode_ofByte (b : UInt8) :
    Utf8.encode (ofByte b) = [digitByte (b.toNat / 16), digitByte (b.toNat % 16)] := by
  have small : b.toNat < 256 := b.toNat_lt
  rw [ofByte, Utf8.encode_cons, Utf8.encode_cons, encodeChar_digit (by omega),
    encodeChar_digit (by omega)]
  rfl

theorem encode_bytes (b : UInt8) (bs : Bytes) : Utf8.encode (encode (b :: bs)) =
    digitByte (b.toNat / 16) :: digitByte (b.toNat % 16) :: Utf8.encode (encode bs) := by
  rw [encode, List.flatMap_cons, Utf8.encode_append, encode_ofByte]
  rfl

/-- Digits denote the bytes that are written with them, up to the case of letters. -/
theorem decode?_eq_some : ∀ s bs : Bytes,
    decode? (s.map fun b => Char.ofNat b.toNat) = some bs ↔
      s.map smallLetter = Utf8.encode (encode bs)
  | [], bs => by
    cases bs with
    | nil => simp [decode?, encode]
    | cons b bs => simp [decode?, encode_bytes]
  | [a], bs => by
    cases bs with
    | nil => simp [decode?, encode]
    | cons b bs => simp [decode?, encode_bytes]
  | a :: b :: s, bs => by
    have ih := decode?_eq_some s
    simp only [List.map_cons, decode?]
    constructor
    · intro h
      split at h
      · rename_i x y more high low read
        cases h
        have hx := value?_lt high
        have hy := value?_lt low
        rw [encode_bytes, toNat_byte (by omega), ← (ih _).mp read, (value?_eq_some a hx).mp high,
          (value?_eq_some b hy).mp low, show (16 * x + y) / 16 = x by omega,
          show (16 * x + y) % 16 = y by omega]
      · cases h
    · intro h
      cases bs with
      | nil => simp [encode] at h
      | cons d bs =>
        have small : d.toNat < 256 := d.toNat_lt
        rw [encode_bytes] at h
        simp only [List.cons.injEq] at h
        obtain ⟨high, low, rest⟩ := h
        rw [(value?_eq_some a (by omega)).mpr high, (value?_eq_some b (by omega)).mpr low,
          (ih bs).mpr rest]
        simp only [Option.some.injEq, List.cons.injEq, and_true]
        rw [show 16 * (d.toNat / 16) + d.toNat % 16 = d.toNat by omega, UInt8.ofNat_toNat]

theorem smallLetter_digitByte {n : Nat} (small : n < 16) :
    smallLetter (digitByte n) = digitByte n := by
  rw [← UInt8.toNat_inj, toNat_smallLetter, toNat_digitByte small]
  split
  · exact if_neg (by omega)
  · exact if_neg (by omega)

/-- Written digits have no capital letters. -/
theorem smallLetter_encode (bs : Bytes) :
    (Utf8.encode (encode bs)).map smallLetter = Utf8.encode (encode bs) := by
  induction bs with
  | nil => rfl
  | cons b bs ih =>
    have small : b.toNat < 256 := b.toNat_lt
    rw [encode_bytes, List.map_cons, List.map_cons, ih, smallLetter_digitByte (by omega),
      smallLetter_digitByte (by omega)]

end Hex

end NotebookKernel
