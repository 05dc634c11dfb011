import NotebookKernel.Json.Printer
import NotebookKernel.Proofs.Encoding
import NotebookKernel.Proofs.Lookahead

/-!
# Words, strings and whole numbers as they are printed

What is printed for a word, a string or a whole number is read back as it was, whatever
follows. Only after a number the next byte must not be one that the number could go on with.
-/

namespace NotebookKernel.Json

open Cursor

/-- The value is read, and the text that follows it is left. -/
def Yields {α : Type} (r : Except Fault (α × Cursor)) (a : α) (rest : Bytes) : Prop :=
  ∃ c, r = .ok (a, c) ∧ c.rest = rest

/-- No number goes on here. -/
def Stops (rest : Bytes) : Prop :=
  ∀ b ∈ rest.head?, isDigit b = false ∧ b ≠ 0x2E ∧ isExponentLetter b = false

variable {c : Cursor} {rest : Bytes}

theorem peek_cons {b : UInt8} (text : c.rest = b :: rest) : c.peek = some b := by
  rw [Cursor.peek, text]
  rfl

theorem next_cons {b : UInt8} (text : c.rest = b :: rest) : c.next.rest = rest := by
  rw [next_rest, text]
  rfl

/-! ## Words -/

theorem readIdent_word (es : Bytes) (text : c.rest = es ++ rest) :
    ∃ c', readIdent es c = .ok c' ∧ c'.rest = rest := by
  induction es generalizing c with
  | nil => exact ⟨c, rfl, text⟩
  | cons e es ih =>
    obtain ⟨c', read, left⟩ := ih (next_cons text)
    exact ⟨c', by rw [readIdent, peek_cons text]; simp only [read, if_true], left⟩

/-! ## Strings -/

theorem hexValue_digitByte {n : Nat} (small : n < 16) : hexValue (Hex.digitByte n) = some n :=
  (Hex.value?_eq_some (Hex.digitByte n) small).mpr (Hex.smallLetter_digitByte small)

theorem readHexEscape_digits {hi lo : Nat} (small : hi < 16) (small' : lo < 16)
    (text : c.rest = 0x30 :: 0x30 :: Hex.digitByte hi :: Hex.digitByte lo :: rest) :
    Yields (readHexEscape c) (hi * 16 + lo) rest := by
  have zero : hexValue 0x30 = some 0 := hexValue_digitByte (n := 0) (by decide)
  refine ⟨c.advance 4, ?_, by rw [advance_rest, text]; rfl⟩
  simp only [readHexEscape, text, zero, hexValue_digitByte small, hexValue_digitByte small']
  simp

theorem readEscape_control {ch : Char} (control : ch.toNat < 0x20)
    (text : c.rest = 0x75 :: 0x30 :: 0x30 :: Hex.digitByte (ch.toNat / 16) ::
      Hex.digitByte (ch.toNat % 16) :: rest) :
    Yields (readEscape c) ch rest := by
  obtain ⟨c', read, left⟩ := readHexEscape_digits (by omega) (by omega) (next_cons text)
  refine ⟨c', ?_, left⟩
  have number : ch.toNat / 16 * 16 + ch.toNat % 16 = ch.toNat := Nat.div_add_mod' ..
  have low : isLowSurrogate ch.toNat = false := by
    simp [isLowSurrogate]; omega
  have high : isHighSurrogate ch.toNat = false := by
    simp [isHighSurrogate]; omega
  rw [number] at read
  simp [readEscape, peek_cons text, read, bind, Except.bind, low, high]

/-- A byte that stands for itself in a string. -/
def IsPlainByte (b : UInt8) : Prop := b ≠ 0x22 ∧ b ≠ 0x5C ∧ ¬b < 0x20

theorem isPlainByte_of_toNat {b : UInt8} (mark : b.toNat ≠ 0x22) (backslash : b.toNat ≠ 0x5C)
    (low : 0x20 ≤ b.toNat) : IsPlainByte b := by
  refine ⟨fun h => mark (by rw [h]; rfl), fun h => backslash (by rw [h]; rfl), ?_⟩
  rw [UInt8.lt_iff_toNat_lt]
  exact Nat.not_lt.mpr low

/-- Bytes of a character beyond ASCII are none of ASCII. -/
theorem encodeChar_wide {ch : Char} (wide : 0x80 ≤ ch.toNat) :
    ∀ b ∈ String.utf8EncodeChar ch, 0x80 ≤ b.toNat := by
  have large : ¬ch.val.toNat ≤ 127 := Nat.not_le.mpr wide
  simp only [String.utf8EncodeChar, if_neg large]
  intro b member
  split at member
  · simp only [List.mem_cons, List.not_mem_nil, or_false] at member
    rcases member with rfl | rfl
    all_goals rw [toNat_byte (by omega)]; omega
  · split at member
    · simp only [List.mem_cons, List.not_mem_nil, or_false] at member
      rcases member with rfl | rfl | rfl
      all_goals rw [toNat_byte (by omega)]; omega
    · simp only [List.mem_cons, List.not_mem_nil, or_false] at member
      rcases member with rfl | rfl | rfl | rfl
      all_goals rw [toNat_byte (by omega)]; omega

theorem plain_encodeChar {ch : Char} (mark : ch ≠ '"') (backslash : ch ≠ '\\')
    (low : 0x20 ≤ ch.toNat) : ∀ b ∈ String.utf8EncodeChar ch, IsPlainByte b := by
  intro b member
  by_cases small : ch.toNat < 0x80
  · rw [Utf8.encodeChar_ascii small, List.mem_singleton] at member
    have number : b.toNat = ch.toNat := by rw [member, toNat_byte (by omega)]
    refine isPlainByte_of_toNat ?_ ?_ (by omega)
    · rw [number]
      exact fun h => mark (Char.toNat_inj.mp h)
    · rw [number]
      exact fun h => backslash (Char.toNat_inj.mp h)
  · have wide := encodeChar_wide (by omega) b member
    exact isPlainByte_of_toNat (by omega) (by omega) (by omega)

/-- A character of a string is written as an escape that is read as the character, or as it is. -/
theorem escape_cases (ch : Char) :
    (∃ more, Utf8.encode (escape ch) = 0x5C :: more ∧
      ∀ c rest, c.rest = more ++ rest → Yields (readEscape c) ch rest) ∨
    (Utf8.encode (escape ch) = String.utf8EncodeChar ch ∧
      ∀ b ∈ String.utf8EncodeChar ch, IsPlainByte b) := by
  have letter (b : UInt8) (read : ∀ c rest, c.rest = b :: rest → readEscape c = .ok (ch, c.next))
      (c : Cursor) (rest : Bytes) (text : c.rest = [b] ++ rest) : Yields (readEscape c) ch rest :=
    ⟨c.next, read c rest text, next_cons text⟩
  unfold escape
  split
  · exact Or.inl ⟨[0x22], rfl, letter 0x22 fun c rest text => by simp [readEscape, peek_cons text]⟩
  · exact Or.inl ⟨[0x5C], rfl, letter 0x5C fun c rest text => by simp [readEscape, peek_cons text]⟩
  · exact Or.inl ⟨[0x62], rfl, letter 0x62 fun c rest text => by simp [readEscape, peek_cons text]⟩
  · exact Or.inl ⟨[0x66], rfl, letter 0x66 fun c rest text => by simp [readEscape, peek_cons text]⟩
  · exact Or.inl ⟨[0x6E], rfl, letter 0x6E fun c rest text => by simp [readEscape, peek_cons text]⟩
  · exact Or.inl ⟨[0x72], rfl, letter 0x72 fun c rest text => by simp [readEscape, peek_cons text]⟩
  · exact Or.inl ⟨[0x74], rfl, letter 0x74 fun c rest text => by simp [readEscape, peek_cons text]⟩
  · rename_i mark backslash _ _ _ _ _
    by_cases control : ch.toNat < 0x20
    · rw [if_pos control]
      refine Or.inl ⟨0x75 :: 0x30 :: 0x30 :: [Hex.digitByte (ch.toNat / 16),
        Hex.digitByte (ch.toNat % 16)], ?_, fun c rest text => readEscape_control control text⟩
      have digits := Hex.encode_ofByte (UInt8.ofNat ch.toNat)
      rw [toNat_byte (by omega)] at digits
      rw [← digits]
      rfl
    · rw [if_neg control]
      refine Or.inr ⟨by simp, plain_encodeChar ?_ ?_ (by omega)⟩
      · exact mark
      · exact backslash

/-- Bytes that stand for themselves are taken one by one. -/
theorem readStringBytes_plain {bs : Bytes} (plain : ∀ b ∈ bs, IsPlainByte b) (fuel : Nat)
    (acc : Bytes) (text : c.rest = bs ++ rest) :
    ∃ c', c'.rest = rest ∧
      readStringBytes (fuel + bs.length) acc c = readStringBytes fuel (bs.reverse ++ acc) c' := by
  induction bs generalizing acc c with
  | nil => exact ⟨c, text, rfl⟩
  | cons b bs ih =>
    obtain ⟨mark, backslash, low⟩ := plain b List.mem_cons_self
    obtain ⟨c', left, read⟩ := ih (fun b member => plain b (List.mem_cons_of_mem _ member))
      (b :: acc) (next_cons text)
    refine ⟨c', left, ?_⟩
    rw [List.length_cons, ← Nat.add_assoc, readStringBytes, peek_cons text]
    simp only [if_neg mark, if_neg backslash, if_neg low, read]
    simp

/-- What is written for the characters of a string is read as their bytes. -/
theorem readStringBytes_escaped (cs : List Char) (fuel : Nat) (acc : Bytes)
    (text : c.rest = Utf8.encode (cs.flatMap escape) ++ 0x22 :: rest)
    (enough : (Utf8.encode (cs.flatMap escape)).length < fuel) :
    Yields (readStringBytes fuel acc c) (acc.reverse ++ Utf8.encode cs) rest := by
  induction cs generalizing fuel acc c with
  | nil =>
    cases fuel with
    | zero => cases enough
    | succ fuel =>
      refine ⟨c.next, ?_, next_cons text⟩
      rw [readStringBytes, peek_cons text]
      simp
  | cons ch cs ih =>
    rw [List.flatMap_cons, Utf8.encode_append] at text enough
    rw [List.append_assoc] at text
    rcases escape_cases ch with ⟨more, written, read⟩ | ⟨written, plain⟩
    · rw [written, List.length_append, List.length_cons] at enough
      rw [written, List.cons_append] at text
      cases fuel with
      | zero => omega
      | succ fuel =>
        obtain ⟨c', read, left⟩ := read c.next _ (next_cons text)
        obtain ⟨c'', read', left'⟩ := ih fuel ((String.utf8EncodeChar ch).reverse ++ acc) left
          (by omega)
        refine ⟨c'', ?_, left'⟩
        rw [readStringBytes, peek_cons text]
        simp [read, read', bind, Except.bind]
    · rw [written, List.length_append] at enough
      rw [written] at text
      obtain ⟨fuel', rfl⟩ := Nat.exists_eq_add_of_le'
        (show (String.utf8EncodeChar ch).length ≤ fuel by omega)
      obtain ⟨c', left, read⟩ := readStringBytes_plain plain fuel' acc text
      obtain ⟨c'', read', left'⟩ := ih fuel' ((String.utf8EncodeChar ch).reverse ++ acc) left
        (by omega)
      refine ⟨c'', ?_, left'⟩
      rw [read, read']
      simp

/-- A string is read back, past its opening mark. -/
theorem readString_written (s : String)
    (text : c.rest = Utf8.encode (s.toList.flatMap escape) ++ 0x22 :: rest) :
    Yields (readString c) s rest := by
  have enough : (Utf8.encode (s.toList.flatMap escape)).length < c.rest.length + 1 := by
    rw [text, List.length_append]
    omega
  obtain ⟨c', read, left⟩ := readStringBytes_escaped s.toList _ [] text enough
  refine ⟨c', ?_, left⟩
  rw [List.reverse_nil, List.nil_append] at read
  simp only [readString, read, bind, Except.bind, Utf8.toString?_encode]

theorem encode_renderString (s : String) :
    Utf8.encode (renderString s) = 0x22 :: (Utf8.encode (s.toList.flatMap escape) ++ [0x22]) := by
  rw [renderString, Utf8.encode_cons, Utf8.encode_append]
  rfl

/-! ## Whole numbers -/

/-- The byte of a digit. -/
theorem digit_toNat {ch : Char} (digit : ch.isDigit = true) : 48 ≤ ch.toNat ∧ ch.toNat ≤ 57 := by
  simp only [Char.isDigit, Bool.and_eq_true, decide_eq_true_eq, ge_iff_le,
    UInt32.le_iff_toNat_le] at digit
  exact digit

theorem isDigit_iff (b : UInt8) : isDigit b = true ↔ 48 ≤ b.toNat ∧ b.toNat ≤ 57 := by
  simp only [isDigit, Bool.and_eq_true, decide_eq_true_eq, UInt8.le_iff_toNat_le]
  rfl

theorem encode_digits {cs : List Char} (digits : ∀ ch ∈ cs, ch.isDigit = true) :
    Utf8.encode cs = cs.map fun ch => UInt8.ofNat ch.toNat := by
  induction cs with
  | nil => rfl
  | cons ch cs ih =>
    have bounds := digit_toNat (digits ch List.mem_cons_self)
    rw [Utf8.encode_cons, Utf8.encodeChar_ascii (by omega),
      ih fun ch member => digits ch (List.mem_cons_of_mem _ member)]
    rfl

/-- A run of digits is taken as a whole where no digit follows. -/
theorem takeDigits_digits {cs : List Char} (digits : ∀ ch ∈ cs, ch.isDigit = true)
    (text : c.rest = Utf8.encode cs ++ rest) (stops : Stops rest) :
    (takeDigits c).1 = cs.map (fun ch => ch.toNat - 48) ∧ (takeDigits c).2.rest = rest := by
  have none : rest.takeWhile isDigit = [] := by
    cases rest with
    | nil => rfl
    | cons b bs => rw [List.takeWhile_cons, (stops b rfl).1]; rfl
  have all : ∀ b ∈ Utf8.encode cs, isDigit b = true := by
    intro b member
    rw [encode_digits digits, List.mem_map] at member
    obtain ⟨ch, member, rfl⟩ := member
    have bounds := digit_toNat (digits ch member)
    rw [isDigit_iff, toNat_byte (by omega)]
    exact bounds
  have run : c.rest.takeWhile isDigit = Utf8.encode cs := by
    rw [text, List.takeWhile_append_of_pos all, none, List.append_nil]
  refine ⟨?_, ?_⟩
  · simp only [takeDigits, run]
    rw [encode_digits digits, List.map_map]
    refine List.map_congr_left fun ch member => ?_
    have bounds := digit_toNat (digits ch member)
    simp only [Function.comp_apply, toNat_byte (show ch.toNat < 256 by omega)]
  · simp only [takeDigits, advance_rest]
    rw [run, text, List.drop_left]

theorem le_foldl_digits (ds : List Nat) (n : Nat) : n ≤ ds.foldl (fun m d => m * 10 + d) n := by
  induction ds generalizing n with
  | nil => exact Nat.le_refl n
  | cons d ds ih => exact Nat.le_trans (by omega) (ih (n * 10 + d))

/-- Digits are taken in as long as the number that they make is within the limit. -/
theorem absorb_within {limit : Nat} (ds : List Nat) (n : Nat)
    (within : ds.foldl (fun m d => m * 10 + d) n ≤ limit) :
    absorb limit n ds = (ds.foldl (fun m d => m * 10 + d) n, []) := by
  induction ds generalizing n with
  | nil => rfl
  | cons d ds ih =>
    have small : n * 10 + d ≤ limit := Nat.le_trans (le_foldl_digits ds _) within
    rw [absorb, if_pos small, ih _ within]
    rfl

theorem foldl_toDigits (n : Nat) :
    ((Nat.toDigits 10 n).map fun ch => ch.toNat - 48).foldl (fun m d => m * 10 + d) 0 = n := by
  have value := Nat.ofDigitChars_toDigits (b := 10) (n := n) (by decide) (by decide)
  rw [Nat.ofDigitChars_eq_foldl] at value
  rw [List.foldl_map]
  simpa [Nat.mul_comm] using value

/-- Only zero begins with a zero. -/
theorem toDigits_zero {n : Nat} {cs : List Char} (h : Nat.toDigits 10 n = '0' :: cs) :
    n = 0 ∧ cs = [] := by
  induction n using Nat.strongRecOn generalizing cs with
  | _ n ih =>
    rw [Nat.toDigits_eq_if (by decide)] at h
    by_cases small : n < 10
    · rw [if_pos small] at h
      simp only [List.cons.injEq] at h
      refine ⟨?_, h.2.symm⟩
      have value := congrArg Char.toNat h.1
      rw [Nat.toNat_digitChar_of_lt_ten small] at value
      exact Nat.add_left_cancel (n := 48) value
    · rw [if_neg small] at h
      cases high : Nat.toDigits 10 (n / 10) with
      | nil => exact absurd high Nat.toDigits_ne_nil
      | cons ch more =>
        rw [high, List.cons_append, List.cons.injEq] at h
        rw [h.1] at high
        have := (ih (n / 10) (by omega) high).1
        omega

/-- A number goes on no further. -/
theorem readNumberTail_stops {negative : Bool} {n : Nat} (stops : Stops c.rest) :
    readNumberTail negative n 0 c = finishWhole negative n c := by
  unfold readNumberTail
  cases p : c.peek with
  | none => rfl
  | some b =>
    obtain ⟨_, point, letter⟩ := stops b p
    simp [point, letter]

/-- The decimal digits of a number are read as that number. -/
theorem readNumber_toDigits (negative : Bool) {n : Nat} (within : n ≤ significandLimit)
    (text : c.rest = Utf8.encode (Nat.toDigits 10 n) ++ rest) (stops : Stops rest) :
    ∃ b c', c.peek = some b ∧ isDigit b = true ∧ c'.rest = rest ∧
      readNumber negative c = finishWhole negative n c' := by
  have digits : ∀ ch ∈ Nat.toDigits 10 n, ch.isDigit = true := fun ch =>
    Nat.isDigit_of_mem_toDigits (by decide) (by decide)
  obtain ⟨taken, left⟩ := takeDigits_digits digits text stops
  cases shape : Nat.toDigits 10 n with
  | nil => exact absurd shape Nat.toDigits_ne_nil
  | cons ch cs =>
    have bounds := digit_toNat (digits ch (by rw [shape]; exact List.mem_cons_self))
    rw [shape, Utf8.encode_cons, Utf8.encodeChar_ascii (by omega)] at text
    have peek := peek_cons text
    have number : (UInt8.ofNat ch.toNat).toNat = ch.toNat := toNat_byte (by omega)
    have digit : isDigit (UInt8.ofNat ch.toNat) = true := by rw [isDigit_iff, number]; exact bounds
    by_cases zero : UInt8.ofNat ch.toNat = 0x30
    · have zero' : ch = '0' := by
        rw [← UInt8.toNat_inj, number] at zero
        exact Char.toNat_inj.mp zero
      obtain ⟨rfl, rfl⟩ := toDigits_zero (zero' ▸ shape)
      have after : c.next.rest = rest := next_cons text
      have stops' : Stops c.next.rest := after ▸ stops
      refine ⟨_, c.next, peek, digit, after, ?_⟩
      rw [readNumber, peek]
      simp only [zero, if_true]
      cases p : c.next.peek with
      | none => exact readNumberTail_stops stops'
      | some a =>
        simp only [(stops' a p).1]
        exact readNumberTail_stops stops'
    · refine ⟨_, (takeDigits c).2, peek, digit, left, ?_⟩
      have value := foldl_toDigits n
      have absorbed : absorb significandLimit 0
          ((Nat.toDigits 10 n).map fun ch => ch.toNat - 48) = (n, []) := by
        rw [absorb_within _ _ (by rw [value]; exact within), value]
      rw [readNumber, peek]
      simp only [if_neg zero, if_pos digit, taken, absorbed]
      exact readNumberTail_stops (left ▸ stops)

theorem Whole.ofInt?_val (w : Whole) : Whole.ofInt? w.val = some w :=
  dif_pos ⟨w.lower, w.upper⟩

theorem finishWhole_val {negative : Bool} {n : Nat} {w : Whole}
    (value : w.val = if negative then -(n : Int) else n) (nonzero : negative = true → n ≠ 0) :
    finishWhole negative n c = .ok (.whole w, c) := by
  rw [finishWhole, if_neg fun h => nonzero h.1 h.2, ← value, Whole.ofInt?_val]

/-- A reading of a number that begins with its sign or its first digit. -/
def ReadsNumber (c : Cursor) (n : Number) (rest : Bytes) : Prop :=
  (c.peek = some 0x2D ∧ Yields (readNumber true c.next) n rest) ∨
    ∃ b, c.peek = some b ∧ b ≠ 0x2D ∧ isDigit b = true ∧ Yields (readNumber false c) n rest

/-- A whole number is read back where no number goes on. -/
theorem readNumber_written (w : Whole) (text : c.rest = Utf8.encode (renderInt w.val) ++ rest)
    (stops : Stops rest) : ReadsNumber c (.whole w) rest := by
  have lower := w.lower
  have upper := w.upper
  have within : w.val.natAbs ≤ significandLimit := by
    have limit : significandLimit = 0xFFFFFFFFFFFFFFFF := rfl
    omega
  unfold renderInt at text
  by_cases negative : w.val < 0
  · rw [if_pos negative, Utf8.encode_cons] at text
    obtain ⟨_, c', _, _, left, read⟩ :=
      readNumber_toDigits true within (next_cons text) stops
    refine Or.inl ⟨peek_cons text, c', ?_, left⟩
    rw [read]
    exact finishWhole_val (by simp only [if_true]; omega) fun _ => by omega
  · rw [if_neg negative] at text
    obtain ⟨b, c', peek, digit, left, read⟩ := readNumber_toDigits false within text stops
    refine Or.inr ⟨b, peek, ?_, digit, c', ?_, left⟩
    · rintro rfl
      cases digit
    · rw [read]
      exact finishWhole_val (by simp only [Bool.false_eq_true, if_false]; omega) nofun

end NotebookKernel.Json
