import NotebookKernel.Cell.Token

/-!
# The stretch of a text around a cursor

A scan finds the longest stretch without delimiters that holds the cursor, and there is only one.
The token and its part before the cursor are cut out of the text by bytes. Every cut falls between
two characters, so what comes out is the characters of the stretch.
-/

namespace NotebookKernel

/-- White space, a parenthesis, a comma, an arithmetic sign or the point. -/
def Delimits (c : Char) : Prop := isBlank c = true ∨ c ∈ ['(', ')', ',', '+', '-', '*', '/', '.']

theorem isDelimiter_iff {c : Char} : isDelimiter c = true ↔ Delimits c := by
  simp [isDelimiter, Delimits, or_assoc]

namespace TokenSpan

/-- The span is around the cursor and cannot be made longer on either side. -/
structure Surrounds (s : TokenSpan) (text : List Char) (cursor : Nat) : Prop where
  cursor : s.cursor = min cursor text.length
  start_le : s.start ≤ s.cursor
  le_stop : s.cursor ≤ s.stop
  stop_le : s.stop ≤ text.length
  plain : ∀ n c, s.start ≤ n → n < s.stop → text[n]? = some c → ¬Delimits c
  left : s.start = 0 ∨ ∃ c, text[s.start - 1]? = some c ∧ Delimits c
  right : s.stop = text.length ∨ ∃ c, text[s.stop]? = some c ∧ Delimits c

namespace Surrounds

variable {s t : TokenSpan} {text : List Char} {cursor : Nat}

/-- A span that began earlier would have a delimiter in it. -/
theorem start_le_start (h : s.Surrounds text cursor) (h' : t.Surrounds text cursor) :
    t.start ≤ s.start := by
  refine Nat.le_of_not_lt fun later => ?_
  obtain first | ⟨c, found, delimits⟩ := h'.left
  · omega
  · have same : s.cursor = t.cursor := h.cursor.trans h'.cursor.symm
    have behind := h'.start_le
    have before := h.le_stop
    exact h.plain _ c (by omega) (by omega) found delimits

/-- And so would one that ended later. -/
theorem stop_le_stop (h : s.Surrounds text cursor) (h' : t.Surrounds text cursor) :
    s.stop ≤ t.stop := by
  refine Nat.le_of_not_lt fun later => ?_
  obtain last | ⟨c, found, delimits⟩ := h'.right
  · have inside := h.stop_le
    omega
  · have same : s.cursor = t.cursor := h.cursor.trans h'.cursor.symm
    have behind := h.start_le
    have before := h'.le_stop
    exact h.plain _ c (by omega) (by omega) found delimits

theorem unique (h : s.Surrounds text cursor) (h' : t.Surrounds text cursor) : s = t := by
  obtain ⟨place, start, stop⟩ := s
  obtain ⟨place', start', stop'⟩ := t
  have places : place = place' := h.cursor.trans h'.cursor.symm
  have starts : start = start' := Nat.le_antisymm (h'.start_le_start h) (h.start_le_start h')
  have stops : stop = stop' := Nat.le_antisymm (h.stop_le_stop h') (h'.stop_le_stop h)
  rw [places, starts, stops]

end Surrounds

/-! ## The walk over the text -/

/-- A walk has come to an offset: from the start up to there it has met no delimiter, and the
token cannot start earlier. -/
structure Walks (text : List Char) (cursor index start : Nat) : Prop where
  start_le : start ≤ cursor
  behind : start ≤ index
  plain : ∀ n c, start ≤ n → n < index → text[n]? = some c → ¬Delimits c
  left : start = 0 ∨ ∃ c, text[start - 1]? = some c ∧ Delimits c

namespace Walks

variable {text : List Char} {cursor index start : Nat} {c : Char}

theorem begin (text : List Char) (cursor : Nat) : Walks text cursor 0 0 where
  start_le := Nat.zero_le _
  behind := Nat.le_refl _
  plain _ _ _ negative := absurd negative (Nat.not_lt_zero _)
  left := .inl rfl

/-- A character that is no delimiter leaves the start where it is. -/
theorem pass (h : Walks text cursor index start) (here : text[index]? = some c)
    (plain : ¬Delimits c) : Walks text cursor (index + 1) start := by
  refine ⟨h.start_le, Nat.le_succ_of_le h.behind, ?_, h.left⟩
  intro n d above below found
  by_cases last : n = index
  · subst last
    rw [here] at found
    rwa [← Option.some.inj found]
  · exact h.plain n d above (by omega) found

/-- A delimiter before the cursor moves the start behind it. -/
theorem restart (here : text[index]? = some c) (delimits : Delimits c) (before : index < cursor) :
    Walks text cursor (index + 1) (index + 1) := by
  refine ⟨before, Nat.le_refl _, ?_, .inr ⟨c, here, delimits⟩⟩
  intro n d above below
  omega

/-- A delimiter at the cursor or behind it ends the token. -/
theorem ends (h : Walks text cursor index start) (here : text[index]? = some c)
    (delimits : Delimits c) (reached : cursor ≤ index) :
    (TokenSpan.mk cursor start index).Surrounds text cursor := by
  have inside : index < text.length := (List.getElem?_eq_some_iff.mp here).1
  refine ⟨?_, h.start_le, reached, Nat.le_of_lt inside, h.plain, h.left, .inr ⟨c, here, delimits⟩⟩
  change cursor = min cursor text.length
  omega

/-- The end of the text ends it as well. -/
theorem endsAll (h : Walks text cursor text.length start) (inside : cursor ≤ text.length) :
    (TokenSpan.mk cursor start text.length).Surrounds text cursor := by
  refine ⟨?_, h.start_le, inside, Nat.le_refl _, h.plain, h.left, .inl rfl⟩
  exact (Nat.min_eq_left inside).symm

end Walks

theorem bounds_surrounds {text : List Char} {cursor : Nat} (inside : cursor ≤ text.length)
    {done rest : List Char} {start : Nat} (whole : text = done ++ rest)
    (walks : Walks text cursor done.length start) :
    let ends := bounds cursor done.length start rest
    (TokenSpan.mk cursor ends.1 ends.2).Surrounds text cursor := by
  induction rest generalizing done start with
  | nil =>
    have all : text.length = done.length := by simp [whole]
    rw [← all] at walks
    rw [← all]
    exact walks.endsAll inside
  | cons c rest ih =>
    have here : text[done.length]? = some c := by simp [whole]
    have next : text = (done ++ [c]) ++ rest := by simp [whole]
    have length : (done ++ [c]).length = done.length + 1 := by simp
    intro ends
    by_cases delimits : Delimits c
    · have isDelimiter := isDelimiter_iff.mpr delimits
      by_cases reached : cursor ≤ done.length
      · have found : ends = (start, done.length) := by simp [ends, bounds, isDelimiter, reached]
        rw [found]
        exact walks.ends here delimits reached
      · have onwards := Walks.restart here delimits (Nat.lt_of_not_le reached)
        have found : ends = bounds cursor (done.length + 1) (done.length + 1) rest := by
          simp [ends, bounds, isDelimiter, reached]
        rw [found, ← length]
        rw [← length] at onwards
        exact ih next onwards
    · have isPlain : isDelimiter c = false := by
        rw [← Bool.not_eq_true, isDelimiter_iff]
        exact delimits
      have onwards := walks.pass here delimits
      have found : ends = bounds cursor (done.length + 1) start rest := by
        simp [ends, bounds, isPlain]
      rw [found, ← length]
      rw [← length] at onwards
      exact ih next onwards

theorem scan_surrounds (text : List Char) (cursor : Nat) :
    (scan text cursor).Surrounds text cursor := by
  have found := bounds_surrounds (Nat.min_le_right cursor text.length) (List.nil_append text).symm
    (Walks.begin text _)
  exact ⟨rfl, found.start_le, found.le_stop, found.stop_le, found.plain, found.left, found.right⟩

/-! ## Cuts by bytes -/

theorem dropBytes?_cons (c : Char) (rest : List Char) (n : Nat) :
    dropBytes? (c :: rest) (c.utf8Size + n) = dropBytes? rest n := by
  have width := c.utf8Size_pos
  rw [dropBytes?, if_pos (Nat.le_add_right _ n), Nat.add_sub_cancel_left]
  omega

theorem takeBytes?_cons (c : Char) (rest : List Char) (n : Nat) :
    takeBytes? (c :: rest) (c.utf8Size + n) = (takeBytes? rest n).map (c :: ·) := by
  have width := c.utf8Size_pos
  rw [takeBytes?, if_pos (Nat.le_add_right _ n), Nat.add_sub_cancel_left]
  omega

theorem dropBytes?_byteOffset (text : List Char) (n : Nat) :
    dropBytes? text (byteOffset text n) = some (text.drop n) := by
  induction text generalizing n with
  | nil => simp [byteOffset, dropBytes?]
  | cons c rest ih =>
    cases n with
    | zero => simp [byteOffset, dropBytes?]
    | succ n => rw [byteOffset, dropBytes?_cons, ih, List.drop_succ_cons]

theorem takeBytes?_byteOffset (text : List Char) (n : Nat) :
    takeBytes? text (byteOffset text n) = some (text.take n) := by
  induction text generalizing n with
  | nil => simp [byteOffset, takeBytes?]
  | cons c rest ih =>
    cases n with
    | zero => simp [byteOffset, takeBytes?]
    | succ n => rw [byteOffset, takeBytes?_cons, ih, List.take_succ_cons, Option.map_some]

theorem byteOffset_add (text : List Char) (m k : Nat) :
    byteOffset text (m + k) = byteOffset text m + byteOffset (text.drop m) k := by
  induction text generalizing m with
  | nil => simp [byteOffset]
  | cons c rest ih =>
    cases m with
    | zero => simp [byteOffset]
    | succ m =>
      rw [Nat.succ_add, byteOffset, byteOffset, ih, List.drop_succ_cons, Nat.add_assoc]

/-- Characters in order are cut at bytes in order, each of which starts a character or ends the
text. -/
theorem cut?_byteOffset (text : List Char) {start stop : Nat} (ordered : start ≤ stop) :
    cut? text (byteOffset text start) (byteOffset text stop) = some (text.extract start stop) := by
  obtain ⟨k, rfl⟩ := Nat.exists_eq_add_of_le ordered
  have rest : byteOffset text (start + k) - byteOffset text start =
      byteOffset (text.drop start) k := by
    rw [byteOffset_add]
    omega
  have le : byteOffset text start ≤ byteOffset text (start + k) := by
    rw [byteOffset_add]
    omega
  rw [cut?, if_pos le, dropBytes?_byteOffset, rest]
  simp [takeBytes?_byteOffset]

theorem slice_eq (text : List Char) (start stop : Nat) :
    slice text start stop = text.extract start stop := by
  rw [slice, cut?_byteOffset text (Nat.le_max_right stop start)]
  have same : max stop start - start = stop - start := by omega
  simp [same]

/-- The span that a scan finds is the only one that surrounds the cursor. The token is the
characters of the span, what is before the cursor is those up to it and begins the token, and
neither is cut out of the middle of a character. -/
theorem scan_unique (text : List Char) (cursor : Nat) :
    let s := scan text cursor
    (∀ t : TokenSpan, t.Surrounds text cursor ↔ t = s) ∧
    s.token text = text.extract s.start s.stop ∧
    s.before text = text.extract s.start s.cursor ∧
    s.before text <+: s.token text ∧
    cut? text (byteOffset text s.start) (byteOffset text s.stop) = some (s.token text) ∧
    cut? text (byteOffset text s.start) (byteOffset text s.cursor) = some (s.before text) := by
  intro s
  have surrounds : s.Surrounds text cursor := scan_surrounds text cursor
  have token : s.token text = text.extract s.start s.stop := slice_eq _ _ _
  have before : s.before text = text.extract s.start s.cursor := slice_eq _ _ _
  refine ⟨?_, token, before, ?_, ?_, ?_⟩
  · intro t
    constructor
    · exact fun around => around.unique surrounds
    · rintro rfl
      exact surrounds
  · rw [token, before]
    have shorter : s.cursor - s.start ≤ s.stop - s.start := Nat.sub_le_sub_right surrounds.le_stop _
    exact List.take_prefix_take_left shorter
  · rw [token]
    exact cut?_byteOffset text (Nat.le_trans surrounds.start_le surrounds.le_stop)
  · rw [before]
    exact cut?_byteOffset text surrounds.start_le

/-- The cursor is behind the last character of a token that has a wide one, and before a sign. -/
example :
    let text := "a.fö-b".toList
    scan text 4 = ⟨4, 2, 4⟩ ∧ (scan text 4).token text = ['f', 'ö'] := by decide

end TokenSpan

end NotebookKernel
