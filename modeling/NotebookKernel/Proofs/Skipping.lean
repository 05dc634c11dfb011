import NotebookKernel.Proofs.Printing

/-!
# Skipping a value

A value that nobody asked for is skipped with a stack of the brackets that are open, and one that
is asked for is read by recursion. Skipping is less strict: it has no limit for depth, for the size
of numbers or for the characters of a string. Where a value can be read, it is also skipped,
and both end at the same place.
-/

namespace NotebookKernel.Json

open Cursor

variable {c c' d : Cursor}

/-! ## Bytes left -/

namespace Cursor

theorem next_length {b : UInt8} (p : c.peek = some b) : c.next.rest.length < c.rest.length := by
  obtain ⟨bs, rest⟩ := rest_of_peek p
  simp [rest]

theorem next_length_le (c : Cursor) : c.next.rest.length ≤ c.rest.length := by
  simp

theorem advance_length_le (n : Nat) (c : Cursor) : (c.advance n).rest.length ≤ c.rest.length := by
  simp

theorem skipBlanks_length_le (c : Cursor) : c.skipBlanks.rest.length ≤ c.rest.length :=
  advance_length_le _ c

end Cursor

theorem readIdent_length {es : Bytes} (h : readIdent es c = .ok c') :
    c'.rest.length ≤ c.rest.length := by
  induction es generalizing c with
  | nil =>
    cases h
    exact Nat.le_refl _
  | cons e es ih =>
    unfold readIdent at h
    split at h
    · cases h
    · split at h
      · exact Nat.le_trans (ih h) (next_length_le c)
      · cases h

theorem readHexEscape_length {n : Nat} (h : readHexEscape c = .ok (n, c')) :
    c'.rest.length ≤ c.rest.length := by
  unfold readHexEscape at h
  split at h
  · simp only at h
    split at h
    · cases h
      exact advance_length_le 4 c
    · cases h
  · cases h

theorem readColon_length (h : readColon c = .ok c') : c'.rest.length ≤ c.rest.length := by
  unfold readColon at h
  simp only at h
  split at h
  · cases h
    exact Nat.le_trans (next_length_le _) (skipBlanks_length_le c)
  · cases h
  · cases h

/-! ## Strings -/

/-- Within a string, skipping from `c` comes to `d` and goes on there. -/
def SkipsText (c d : Cursor) : Prop :=
  ∀ n, c.rest.length < n → ∃ m, d.rest.length < m ∧ skipStringFrom n c = skipStringFrom m d

theorem SkipsText.trans {e : Cursor} (first : SkipsText c d) (second : SkipsText d e) :
    SkipsText c e := by
  intro n enough
  obtain ⟨m, enough, first⟩ := first n enough
  obtain ⟨k, enough, second⟩ := second m enough
  exact ⟨k, enough, first.trans second⟩

theorem skipsText_plain {b : UInt8} (p : c.peek = some b) (mark : b ≠ 0x22) (backslash : b ≠ 0x5C)
    (printed : ¬b < 0x20) : SkipsText c c.next := by
  intro n enough
  have shorter := next_length p
  obtain ⟨m, rfl⟩ : ∃ m, n = m + 1 := ⟨n - 1, by omega⟩
  refine ⟨m, by omega, ?_⟩
  rw [skipStringFrom]
  simp only [p, if_neg mark, if_neg backslash, if_neg printed]

theorem skipsText_letter {b : UInt8} (p : c.peek = some 0x5C) (q : c.next.peek = some b)
    (letter : isEscapeLetter b = true) : SkipsText c c.next.next := by
  intro n enough
  have shorter := next_length p
  have shortest := next_length q
  obtain ⟨m, rfl⟩ : ∃ m, n = m + 1 := ⟨n - 1, by omega⟩
  refine ⟨m, by omega, ?_⟩
  rw [skipStringFrom]
  simp [p, q, letter]

theorem skipsText_hex {n : Nat} (p : c.peek = some 0x5C) (q : c.next.peek = some 0x75)
    (h : readHexEscape c.next.next = .ok (n, d)) : SkipsText c d := by
  intro n enough
  have shorter := next_length p
  have shorter' := next_length q
  have shortest := readHexEscape_length h
  obtain ⟨m, rfl⟩ : ∃ m, n = m + 1 := ⟨n - 1, by omega⟩
  refine ⟨m, by omega, ?_⟩
  have other : isEscapeLetter 0x75 = false := rfl
  rw [skipStringFrom]
  simp [p, q, h, other]

/-- The second half of a character is skipped as an escape of its own. -/
theorem skipsText_low {high : Nat} {ch : Char} (h : readLowSurrogate high c = .ok (ch, d)) :
    SkipsText c d := by
  unfold readLowSurrogate at h
  split at h
  · cases h
  rename_i b p
  split at h
  · cases h
  rename_i backslash
  simp only at h
  split at h
  · cases h
  rename_i u q
  split at h
  · cases h
  rename_i unicode
  obtain ⟨⟨low, d'⟩, hex, h⟩ := bind_eq_ok.mp h
  simp only at h
  split at h
  · obtain ⟨-, rfl⟩ : _ ∧ d' = d := by simpa using h
    rw [not_ne_iff] at backslash unicode
    subst backslash unicode
    exact skipsText_hex p q hex
  · cases h

theorem skipsText_escape {ch : Char} (p : c.peek = some 0x5C)
    (h : readEscape c.next = .ok (ch, d)) : SkipsText c d := by
  unfold readEscape at h
  cases q : c.next.peek with
  | none =>
    rw [q] at h
    cases h
  | some b =>
    simp only [q] at h
    by_cases letter : isEscapeLetter b = true
    · have same : d = c.next.next := by
        simp only [isEscapeLetter, Bool.or_eq_true, beq_iff_eq] at letter
        rcases letter with ((((((rfl | rfl) | rfl) | rfl) | rfl) | rfl) | rfl) | rfl
        all_goals
          cases h
          rfl
      rw [same]
      exact skipsText_letter p q letter
    · simp only [isEscapeLetter, Bool.or_eq_true, beq_iff_eq, not_or] at letter
      obtain ⟨⟨⟨⟨⟨⟨⟨a₁, a₂⟩, a₃⟩, a₄⟩, a₅⟩, a₆⟩, a₇⟩, a₈⟩ := letter
      simp only [if_neg a₁, if_neg a₂, if_neg a₃, if_neg a₄, if_neg a₅, if_neg a₆, if_neg a₇,
        if_neg a₈] at h
      split at h
      · rename_i unicode
        subst unicode
        obtain ⟨⟨n, d'⟩, hex, h⟩ := bind_eq_ok.mp h
        have first := skipsText_hex p q hex
        simp only at h
        split at h
        · cases h
        · split at h
          · exact first.trans (skipsText_low h)
          · cases h
            exact first
      · cases h

theorem skipStringFrom_of_read {fuel n : Nat} {acc bs : Bytes} (enough : c.rest.length < n)
    (h : readStringBytes fuel acc c = .ok (bs, c')) : skipStringFrom n c = .ok c' := by
  induction fuel generalizing acc c n with
  | zero => cases h
  | succ fuel ih =>
    unfold readStringBytes at h
    split at h
    · cases h
    rename_i b p
    split at h
    · rename_i mark
      cases h
      obtain ⟨m, rfl⟩ : ∃ m, n = m + 1 := ⟨n - 1, by omega⟩
      rw [skipStringFrom]
      simp only [p, if_pos mark]
    · rename_i mark
      split at h
      · rename_i backslash
        subst backslash
        obtain ⟨⟨ch, d⟩, escape, h⟩ := bind_eq_ok.mp h
        obtain ⟨m, enough, goes⟩ := skipsText_escape p escape n enough
        rw [goes]
        exact ih enough h
      · rename_i backslash
        split at h
        · cases h
        · rename_i printed
          obtain ⟨m, enough, goes⟩ := skipsText_plain p mark backslash printed n enough
          rw [goes]
          exact ih enough h

theorem skipString_of_read {s : String} (h : readString c = .ok (s, c')) :
    skipString c = .ok c' := by
  obtain ⟨⟨bs, after⟩, bytes, h⟩ := bind_eq_ok.mp h
  simp only at h
  split at h
  · cases h
    exact skipStringFrom_of_read (Nat.lt_succ_self _) bytes
  · split at h
    · cases h
    · cases h

theorem skipStringFrom_length {n : Nat} (h : skipStringFrom n c = .ok c') :
    c'.rest.length ≤ c.rest.length := by
  induction n generalizing c with
  | zero => cases h
  | succ n ih =>
    unfold skipStringFrom at h
    split at h
    · cases h
    · split at h
      · cases h
        exact next_length_le c
      · split at h
        · simp only at h
          split at h
          · cases h
          · split at h
            · exact Nat.le_trans (ih h) (Nat.le_trans (next_length_le _) (next_length_le c))
            · split at h
              · split at h
                · rename_i hex
                  calc c'.rest.length
                    _ ≤ _ := ih h
                    _ ≤ _ := readHexEscape_length hex
                    _ ≤ c.next.rest.length := next_length_le _
                    _ ≤ c.rest.length := next_length_le c
                · cases h
              · cases h
        · split at h
          · cases h
          · exact Nat.le_trans (ih h) (next_length_le c)

theorem readString_length {s : String} (h : readString c = .ok (s, c')) :
    c'.rest.length ≤ c.rest.length :=
  skipStringFrom_length (skipString_of_read h)

/-! ## Numbers -/

section Numbers

variable {n : Number} {negative : Bool} {s : Nat} {k : Int}

theorem skipSignedExponent_of_read {down : Bool}
    (h : readSignedExponent negative s k down c = .ok (n, c')) :
    skipSignedExponent c = .ok c' := by
  unfold readSignedExponent at h
  split at h
  · cases h
  rename_i b p
  split at h
  · rename_i digit
    have after : c' = (takeDigits c).2 := by
      split at h
      · exact finishReal_cursor h
      · split at h
        · cases h
        · cases h
          rfl
    simp only [skipSignedExponent, p, if_pos digit, after]
  · cases h

theorem skipExponent_of_read (h : readExponent negative s k c = .ok (n, c')) :
    skipExponent c = .ok c' := by
  rw [readExponent_eq] at h
  rw [skipExponent_eq]
  exact skipSignedExponent_of_read h

theorem skipFraction_of_read (p : c.peek = some 0x2E)
    (h : readFraction negative s k c = .ok (n, c')) : skipNumberTail c = .ok c' := by
  unfold readFraction at h
  simp only [skipNumberTail, p]
  simp only at h
  split at h
  · split at h
    · cases h
    · cases h
  rename_i digits
  rw [if_pos trivial, if_neg digits]
  split at h
  · split at h
    · rename_i letter
      rw [if_pos letter]
      exact skipExponent_of_read h
    · rename_i letter
      rw [if_neg letter, ← finishReal_cursor h]
  · rw [← finishReal_cursor h]

theorem skipNumberTail_of_read {extra : Nat} (h : readNumberTail negative s extra c = .ok (n, c')) :
    skipNumberTail c = .ok c' := by
  have whole : (if extra = 0 then finishWhole negative s c else finishReal negative s extra c) =
      .ok (n, c') → c = c' := by
    intro h
    split at h
    · exact (finishWhole_cursor h).symm
    · exact (finishReal_cursor h).symm
  unfold readNumberTail at h
  split at h
  · rename_i b p
    split at h
    · rename_i point
      exact skipFraction_of_read (p.trans (congrArg some point)) h
    · rename_i point
      simp only [skipNumberTail, p, if_neg point]
      split at h
      · rename_i letter
        rw [if_pos letter]
        exact skipExponent_of_read h
      · rename_i letter
        rw [if_neg letter, whole h]
  · rename_i p
    simp only [skipNumberTail, p]
    rw [whole h]

theorem skipNumber_of_read (h : readNumber negative c = .ok (n, c')) : skipNumber c = .ok c' := by
  unfold readNumber at h
  unfold skipNumber
  split at h
  · cases h
  split at h
  · rename_i zero
    rw [if_pos zero]
    split at h
    · split at h
      · cases h
      · rename_i digit
        simp only [if_neg digit]
        exact skipNumberTail_of_read h
    · exact skipNumberTail_of_read h
  · rename_i zero
    rw [if_neg zero]
    split at h
    · rename_i digit
      rw [if_pos digit]
      exact skipNumberTail_of_read h
    · cases h

end Numbers

theorem takeDigits_length (c : Cursor) : (takeDigits c).2.rest.length ≤ c.rest.length :=
  advance_length_le _ c

theorem skipExponent_length (h : skipExponent c = .ok c') : c'.rest.length ≤ c.rest.length := by
  have sign : (exponentSign c.next).2.rest.length ≤ c.rest.length := by
    unfold exponentSign
    split
    · exact Nat.le_trans (next_length_le _) (next_length_le c)
    · exact Nat.le_trans (next_length_le _) (next_length_le c)
    · exact next_length_le c
  rw [skipExponent_eq] at h
  unfold skipSignedExponent at h
  split at h
  · split at h
    · cases h
      exact Nat.le_trans (takeDigits_length _) sign
    · cases h
  · cases h

theorem skipNumberTail_length (h : skipNumberTail c = .ok c') :
    c'.rest.length ≤ c.rest.length := by
  have digits : (takeDigits c.next).2.rest.length ≤ c.rest.length :=
    Nat.le_trans (takeDigits_length _) (next_length_le c)
  unfold skipNumberTail at h
  split at h
  · split at h
    · simp only at h
      split at h
      · cases h
      · split at h
        · split at h
          · exact Nat.le_trans (skipExponent_length h) digits
          · cases h
            exact digits
        · cases h
          exact digits
    · split at h
      · exact skipExponent_length h
      · cases h
        exact Nat.le_refl _
  · cases h
    exact Nat.le_refl _

theorem skipNumber_length (h : skipNumber c = .ok c') : c'.rest.length ≤ c.rest.length := by
  unfold skipNumber at h
  split at h
  · cases h
  · split at h
    · split at h
      · split at h
        · cases h
        · exact Nat.le_trans (skipNumberTail_length h) (next_length_le c)
      · exact Nat.le_trans (skipNumberTail_length h) (next_length_le c)
    · split at h
      · exact Nat.le_trans (skipNumberTail_length h) (takeDigits_length c)
      · cases h

/-! ## Values by their first byte -/

/-- A value that is read, by its first byte, which is at the cursor. -/
inductive Reads (here : Cursor) : Nat → UInt8 → Value → Cursor → Prop where
  | null {room : Nat} {after : Cursor} (word : readIdent [0x75, 0x6C, 0x6C] here.next = .ok after) :
      Reads here room 0x6E .null after
  | yes {room : Nat} {after : Cursor} (word : readIdent [0x72, 0x75, 0x65] here.next = .ok after) :
      Reads here room 0x74 (.bool true) after
  | no {room : Nat} {after : Cursor}
      (word : readIdent [0x61, 0x6C, 0x73, 0x65] here.next = .ok after) :
      Reads here room 0x66 (.bool false) after
  | minus {room : Nat} {after : Cursor} {n : Number}
      (number : readNumber true here.next = .ok (n, after)) :
      Reads here room 0x2D (.number n) after
  | number {room : Nat} {after : Cursor} {b : UInt8} {n : Number} (digit : isDigit b = true)
      (number : readNumber false here = .ok (n, after)) : Reads here room b (.number n) after
  | string {room : Nat} {after : Cursor} {s : String}
      (text : readString here.next = .ok (s, after)) : Reads here room 0x22 (.string s) after
  | array {room : Nat} {after : Cursor} {items : List Value}
      (list : readList (readValue room) here = .ok (items, after)) :
      Reads here (room + 1) 0x5B (.array items) after
  | object {room : Nat} {after : Cursor} {entries : Dict}
      (fields : readObject (readEntry (readValue room)) [] here = .ok (entries, after)) :
      Reads here (room + 1) 0x7B (.fields entries) after

theorem reads_of_scalar {room : Nat} {b : UInt8} {v : Value}
    (h : readScalar b c = some (.ok (v, c'))) : Reads c room b v c' := by
  unfold readScalar at h
  split at h
  · rename_i byte
    obtain ⟨d, word, h⟩ := bind_eq_ok.mp (Option.some.inj h)
    cases h
    exact byte ▸ .null word
  split at h
  · rename_i byte
    obtain ⟨d, word, h⟩ := bind_eq_ok.mp (Option.some.inj h)
    cases h
    exact byte ▸ .yes word
  split at h
  · rename_i byte
    obtain ⟨d, word, h⟩ := bind_eq_ok.mp (Option.some.inj h)
    cases h
    exact byte ▸ .no word
  split at h
  · rename_i byte
    obtain ⟨⟨n, d⟩, number, h⟩ := bind_eq_ok.mp (Option.some.inj h)
    cases h
    exact byte ▸ .minus number
  split at h
  · rename_i digit
    obtain ⟨⟨n, d⟩, number, h⟩ := bind_eq_ok.mp (Option.some.inj h)
    cases h
    exact .number digit number
  split at h
  · rename_i byte
    obtain ⟨⟨s, d⟩, text, h⟩ := bind_eq_ok.mp (Option.some.inj h)
    cases h
    exact byte ▸ .string text
  · cases h

theorem reads_of_readValue {room : Nat} {v : Value} (h : readValue room c = .ok (v, c')) :
    ∃ b, c.skipBlanks.peek = some b ∧ Reads c.skipBlanks room b v c' := by
  unfold readValue at h
  simp only at h
  split at h
  · cases h
  rename_i b p
  refine ⟨b, p, ?_⟩
  split at h
  · rename_i scalar
    exact reads_of_scalar (h ▸ scalar)
  split at h
  · rename_i byte
    cases room with
    | zero => cases h
    | succ room =>
      obtain ⟨⟨items, d⟩, list, h⟩ := bind_eq_ok.mp h
      cases h
      exact byte ▸ .array list
  split at h
  · rename_i byte
    cases room with
    | zero => cases h
    | succ room =>
      obtain ⟨⟨entries, d⟩, fields, h⟩ := bind_eq_ok.mp h
      cases h
      exact byte ▸ .object fields
  · cases h

/-! ## One position after another -/

/-- How far skipping has come: the brackets that are open, the stage and the text left. -/
structure Position where
  frames : List Frame
  stage : Stage
  cursor : Cursor

namespace Position

/-- What is skipped from the position on. -/
def skip (p : Position) (fuel : Nat) : Except Fault Cursor :=
  skipFrom fuel p.frames p.stage p.cursor

/-- The fuel that is enough from the position on. -/
def need (p : Position) : Nat :=
  match p.stage with
  | .value => 2 * p.cursor.rest.length + 2
  | .inside true => 2 * p.cursor.rest.length + 1
  | .inside false => 2 * p.cursor.rest.length + 3

/-- Skipping from the first position comes to the second one and goes on there. -/
def Leads (p q : Position) : Prop :=
  ∀ fuel, p.need ≤ fuel → ∃ left, q.need ≤ left ∧ p.skip fuel = q.skip left

theorem Leads.trans {p q r : Position} (first : p.Leads q) (second : q.Leads r) : p.Leads r := by
  intro fuel enough
  obtain ⟨left, enough, first⟩ := first fuel enough
  obtain ⟨least, enough, second⟩ := second left enough
  exact ⟨least, enough, first.trans second⟩

/-- A single step leads on if it leaves enough fuel. -/
theorem Leads.step {p q : Position} (less : q.need < p.need)
    (h : ∀ fuel, q.need ≤ fuel → p.skip (fuel + 1) = q.skip fuel) : p.Leads q := by
  intro fuel enough
  obtain ⟨left, rfl⟩ : ∃ left, fuel = left + 1 := ⟨fuel - 1, by omega⟩
  exact ⟨left, by omega, h left (by omega)⟩

/-- After the value, the outermost one is done and any other goes on in its frame. -/
theorem skip_after {frames : List Frame} {fuel : Nat}
    (enough : (Position.mk frames (.inside true) c).need ≤ fuel) :
    (Position.mk frames (.inside true) c).skip fuel =
      if frames = [] then .ok c else skipFrom fuel frames (.inside true) c := by
  cases frames with
  | nil =>
    obtain ⟨left, rfl⟩ : ∃ left, fuel = left + 1 := ⟨fuel - 1, by simp only [need] at enough; omega⟩
    rfl
  | cons f outer => rfl

end Position

open Position

/-- The bracket that opens a frame. -/
def Frame.opening : Frame → UInt8
  | .list => 0x5B
  | .object => 0x7B

/-- The bracket that closes a frame. -/
def Frame.closing : Frame → UInt8
  | .list => 0x5D
  | .object => 0x7D

variable {frames outer : List Frame}

theorem leads_scalar {b : UInt8} (p : c.skipBlanks.peek = some b)
    (scalar : skipScalar b c.skipBlanks = some (.ok d))
    (less : d.rest.length ≤ c.skipBlanks.rest.length) :
    Leads ⟨frames, .value, c⟩ ⟨frames, .inside true, d⟩ := by
  have blanks := skipBlanks_length_le c
  refine .step (by simp only [need]; omega) fun fuel enough => ?_
  rw [skip_after enough, skip, skipFrom]
  simp only [p, scalar]

theorem leads_open (f : Frame) (p : c.skipBlanks.peek = some f.opening) :
    Leads ⟨frames, .value, c⟩ ⟨f :: frames, .inside false, c.skipBlanks.next⟩ := by
  have blanks := skipBlanks_length_le c
  have shorter := next_length p
  refine .step (by simp only [need]; omega) fun fuel _ => ?_
  rw [skip, skipFrom]
  cases f with
  | list =>
    have none : skipScalar 0x5B c.skipBlanks = none := rfl
    simp only [p, Frame.opening, none]
    rfl
  | object =>
    have none : skipScalar 0x7B c.skipBlanks = none := rfl
    simp only [p, Frame.opening, none]
    rfl

theorem leads_close (f : Frame) (comma : Bool) (p : c.skipBlanks.peek = some f.closing) :
    Leads ⟨f :: outer, .inside comma, c⟩ ⟨outer, .inside true, c.skipBlanks.next⟩ := by
  have blanks := skipBlanks_length_le c
  have shorter := next_length p
  refine .step ?_ fun fuel enough => ?_
  · cases comma
    all_goals
      simp only [need]
      omega
  · rw [skip_after enough]
    cases f with
    | list => simp [skip, skipFrom, p, Frame.closing]
    | object => simp [skip, skipFrom, p, Frame.closing]

/-- A value may have blanks before it. -/
theorem leads_blanks : Leads ⟨frames, .value, c⟩ ⟨frames, .value, c.skipBlanks⟩ := by
  intro fuel enough
  have blanks := skipBlanks_length_le c
  simp only [need] at enough ⊢
  refine ⟨fuel, by omega, ?_⟩
  obtain ⟨left, rfl⟩ : ∃ left, fuel = left + 1 := ⟨fuel - 1, by omega⟩
  simp only [skip, skipFrom, skipBlanks_skipBlanks]

/-- The comma before another item or field, or the first one without a comma. -/
theorem leads_next {f : Frame} {first : Bool} {b : UInt8} (p : c.skipBlanks.peek = some b)
    (open_ : b ≠ f.closing) (comma : first = false → b = 0x2C)
    (named : skipName f (if first then c.skipBlanks else c.skipBlanks.next) = .ok d)
    (less : d.rest.length ≤ (if first then c.skipBlanks else c.skipBlanks.next).rest.length) :
    Leads ⟨f :: outer, .inside (!first), c⟩ ⟨f :: outer, .value, d⟩ := by
  have blanks := skipBlanks_length_le c
  have shorter := next_length p
  have inside : ¬(b = 0x5D ∧ f = .list ∨ b = 0x7D ∧ f = .object) := by
    rintro (⟨byte, rfl⟩ | ⟨byte, rfl⟩)
    · exact open_ byte
    · exact open_ byte
  cases first with
  | true =>
    simp only [if_true] at named less
    refine .step (by simp only [need, Bool.not_true]; omega) fun fuel _ => ?_
    simp [skip, skipFrom, p, inside, named]
  | false =>
    have byte := comma rfl
    simp only [Bool.false_eq_true, if_false] at named less
    refine .step (by simp only [need, Bool.not_false]; omega) fun fuel _ => ?_
    simp [skip, skipFrom, p, byte, named]

theorem leads_item {first : Bool} (h : anotherItem first c = .ok (true, d)) :
    Leads ⟨.list :: outer, .inside (!first), c⟩ ⟨.list :: outer, .value, d⟩ := by
  unfold anotherItem at h
  simp only at h
  split at h
  · cases h
  rename_i b p
  split at h
  · cases h
  rename_i more
  split at h
  · rename_i first
    subst first
    cases h
    exact leads_next (f := .list) p more Bool.noConfusion rfl (Nat.le_refl _)
  rename_i later
  rw [Bool.not_eq_true] at later
  subst later
  split at h
  · rename_i comma
    split at h
    · cases h
    · cases h
      exact (leads_next (f := .list) p more (fun _ => comma) rfl (Nat.le_refl _)).trans leads_blanks
    · cases h
  · cases h

theorem anotherItem_last {first : Bool} (h : anotherItem first c = .ok (false, d)) :
    d = c.skipBlanks ∧ c.skipBlanks.peek = some Frame.list.closing := by
  unfold anotherItem at h
  simp only at h
  split at h
  · cases h
  rename_i b p
  split at h
  · rename_i byte
    cases h
    exact ⟨rfl, p.trans (congrArg some byte)⟩
  · grind [Cursor.failNext, Cursor.fail]

theorem closeList_skips (p : c.skipBlanks.peek = some Frame.list.closing)
    (h : closeList c.skipBlanks = .ok d) : d = c.skipBlanks.next := by
  rw [Frame.closing] at p
  rw [closeList, skipBlanks_skipBlanks] at h
  simp only [p] at h
  exact (Except.ok.inj h).symm

theorem leads_field {first : Bool} {name : String} {e e' : Cursor}
    (h : anotherField first c = .ok (true, d)) (text : readString d.next = .ok (name, e))
    (colon : readColon e = .ok e') :
    Leads ⟨.object :: outer, .inside (!first), c⟩ ⟨.object :: outer, .value, e'⟩ := by
  have less : e'.rest.length ≤ d.rest.length :=
    calc e'.rest.length
      _ ≤ e.rest.length := readColon_length colon
      _ ≤ d.next.rest.length := readString_length text
      _ ≤ d.rest.length := next_length_le d
  have named {x : Cursor} (mark : x.skipBlanks.peek = some 0x22) (here : d = x.skipBlanks) :
      skipName .object x = .ok e' := by
    subst here
    simp only [skipName, mark]
    exact bind_eq_ok.mpr ⟨e, skipString_of_read text, colon⟩
  unfold anotherField at h
  simp only at h
  split at h
  · cases h
  rename_i b p
  split at h
  · cases h
  rename_i more
  split at h
  · rename_i first
    subst first
    split at h
    · rename_i mark
      cases h
      subst mark
      refine leads_next p more Bool.noConfusion (named ?_ ?_) less
      · exact (congrArg Cursor.peek (skipBlanks_skipBlanks c)).trans p
      · exact (skipBlanks_skipBlanks c).symm
    · cases h
  rename_i later
  rw [Bool.not_eq_true] at later
  subst later
  split at h
  · rename_i comma
    split at h
    · rename_i mark
      cases h
      exact leads_next p more (fun _ => comma) (named mark rfl)
        (Nat.le_trans less (skipBlanks_length_le _))
    · cases h
    · cases h
    · cases h
  · cases h

theorem anotherField_last {first : Bool} (h : anotherField first c = .ok (false, d)) :
    d = c.skipBlanks ∧ c.skipBlanks.peek = some Frame.object.closing := by
  unfold anotherField at h
  simp only at h
  split at h
  · cases h
  rename_i b p
  split at h
  · rename_i byte
    cases h
    exact ⟨rfl, p.trans (congrArg some byte)⟩
  · grind [Cursor.failNext, Cursor.fail]

theorem closeObject_skips (p : c.skipBlanks.peek = some Frame.object.closing)
    (h : closeObject c.skipBlanks = .ok d) : d = c.skipBlanks.next := by
  rw [Frame.closing] at p
  rw [closeObject, skipBlanks_skipBlanks] at h
  simp only [p] at h
  exact (Except.ok.inj h).symm

/-! ## Whole values -/

/-- What is read is skipped, whatever brackets are open. -/
def SkipsRead {α : Type} (read : Cursor → Except Fault (α × Cursor)) : Prop :=
  ∀ (c d : Cursor) (a : α) (frames : List Frame), read c = .ok (a, d) →
    Leads ⟨frames, .value, c⟩ ⟨frames, .inside true, d⟩

theorem SkipsRead.items {α : Type} {read : Cursor → Except Fault (α × Cursor)}
    (item : SkipsRead read) {fuel : Nat} {first : Bool} {acc items : List α}
    (h : readItems read fuel first acc c = .ok (items, d)) (close : closeList d = .ok c') :
    Leads ⟨.list :: outer, .inside (!first), c⟩ ⟨outer, .inside true, c'⟩ := by
  induction fuel generalizing first acc c with
  | zero => cases h
  | succ fuel ih =>
    rw [readItems] at h
    split at h
    · cases h
    · rename_i last
      cases h
      obtain ⟨rfl, p⟩ := anotherItem_last last
      rw [closeList_skips p close]
      exact leads_close .list _ p
    · rename_i more
      split at h
      · cases h
      · rename_i value
        exact ((leads_item more).trans (item _ _ _ _ value)).trans (ih h)

theorem SkipsRead.fields {read : Cursor → Except Fault (Value × Cursor)} (value : SkipsRead read)
    {fuel : Nat} {first : Bool} {before entries : Dict}
    (h : readFields (readEntry read) fuel first before c = .ok (entries, d))
    (close : closeObject d = .ok c') :
    Leads ⟨.object :: outer, .inside (!first), c⟩ ⟨outer, .inside true, c'⟩ := by
  induction fuel generalizing first before c with
  | zero => cases h
  | succ fuel ih =>
    rw [readFields] at h
    split at h
    · cases h
    · rename_i last
      cases h
      obtain ⟨rfl, p⟩ := anotherField_last last
      rw [closeObject_skips p close]
      exact leads_close .object _ p
    · rename_i more
      split at h
      · cases h
      · rename_i text
        split at h
        · cases h
        · rename_i entry
          obtain ⟨e, colon, entry⟩ := bind_eq_ok.mp entry
          obtain ⟨⟨v, e'⟩, found, entry⟩ := bind_eq_ok.mp entry
          cases entry
          exact ((leads_field more text colon).trans (value _ _ _ _ found)).trans (ih h)

theorem skipScalar_number {b : UInt8} (digit : isDigit b = true) (h : skipNumber c = .ok d) :
    skipScalar b c = some (.ok d) := by
  have other {a : UInt8} (no_digit : isDigit a = false) : b ≠ a := ne_of_isDigit digit no_digit
  rw [skipScalar, if_neg (other rfl), if_neg (other rfl), if_neg (other rfl),
    if_neg (other rfl), if_pos digit, h]

/-- A value that is read is skipped: scalars in one step, and lists and objects by what they
hold. -/
theorem readValue_skips (room : Nat) : SkipsRead (readValue room) := by
  induction room using Nat.strongRecOn with
  | ind room ih =>
    intro c d v frames h
    obtain ⟨b, p, reads⟩ := reads_of_readValue h
    have after := next_length_le c.skipBlanks
    cases reads with
    | null word =>
      exact leads_scalar p (congrArg some word) (Nat.le_trans (readIdent_length word) after)
    | yes word =>
      exact leads_scalar p (congrArg some word) (Nat.le_trans (readIdent_length word) after)
    | no word =>
      exact leads_scalar p (congrArg some word) (Nat.le_trans (readIdent_length word) after)
    | minus number =>
      have skipped := skipNumber_of_read number
      exact leads_scalar p (congrArg some skipped) (Nat.le_trans (skipNumber_length skipped) after)
    | number digit number =>
      have skipped := skipNumber_of_read number
      exact leads_scalar p (skipScalar_number digit skipped) (skipNumber_length skipped)
    | string text =>
      have skipped := skipString_of_read text
      exact leads_scalar p (congrArg some skipped) (Nat.le_trans (readString_length text) after)
    | array list =>
      obtain ⟨⟨items, d'⟩, all, list⟩ := bind_eq_ok.mp list
      obtain ⟨c', close, list⟩ := bind_eq_ok.mp list
      cases list
      exact (leads_open .list p).trans ((ih _ (Nat.lt_succ_self _)).items all close)
    | object fields =>
      obtain ⟨⟨entries, d'⟩, all, fields⟩ := bind_eq_ok.mp fields
      obtain ⟨c', close, fields⟩ := bind_eq_ok.mp fields
      cases fields
      exact (leads_open .object p).trans ((ih _ (Nat.lt_succ_self _)).fields all close)

/-- A value that can be read can be skipped, and both end at the same place. -/
theorem skipValue_of_readValue {room : Nat} {v : Value} (h : readValue room c = .ok (v, d)) :
    skipValue c = .ok d := by
  have leads : Leads ⟨[], .value, c⟩ ⟨[], .inside true, d⟩ := readValue_skips room c d v [] h
  obtain ⟨left, enough, skipped⟩ := leads (2 * c.rest.length + 2) (Nat.le_refl _)
  rw [skip_after enough] at skipped
  exact skipped

end NotebookKernel.Json
