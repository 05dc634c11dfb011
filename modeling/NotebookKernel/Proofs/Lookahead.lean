import NotebookKernel.Json.Reader

/-!
# How far reading looks

Reading a word or a string never looks past its end. Reading a number looks at one byte more,
to see whether the number goes on. So what was read from a text is read again from any longer
text, unless the first text ended with a number.
-/

namespace NotebookKernel.Json

theorem drop_takeWhile {α : Type} (p : α → Bool) (l : List α) :
    l.drop (l.takeWhile p).length = l.dropWhile p :=
  calc l.drop (l.takeWhile p).length
    _ = (l.takeWhile p ++ l.dropWhile p).drop (l.takeWhile p).length := by
      rw [List.takeWhile_append_dropWhile]
    _ = l.dropWhile p := List.drop_left

theorem takeWhile_dropWhile {α : Type} (p : α → Bool) (l : List α) :
    (l.dropWhile p).takeWhile p = [] := by
  induction l with
  | nil => rfl
  | cons a l ih =>
    by_cases h : p a
    · simp [h, ih]
    · simp [h]

/-- Where a run ends before the list does, adding to the list leaves the run as it is. -/
theorem run_append {α : Type} {p : α → Bool} {l m : List α} (ends : l.dropWhile p ≠ [] ∨ m = []) :
    (l ++ m).takeWhile p = l.takeWhile p ∧ (l ++ m).dropWhile p = l.dropWhile p ++ m := by
  cases ends with
  | inr none => simp [none]
  | inl left =>
    induction l with
    | nil => exact absurd rfl left
    | cons a l ih =>
      by_cases h : p a
      · simpa [h] using ih (by simpa [h] using left)
      · simp [h]

namespace Cursor

@[simp] theorem next_rest (c : Cursor) : c.next.rest = c.rest.tail := by
  obtain ⟨rest, l, k⟩ := c
  cases rest with
  | nil => rfl
  | cons b bs =>
    simp only [next]
    split
    · rfl
    · rfl

@[simp] theorem advance_rest (n : Nat) (c : Cursor) : (c.advance n).rest = c.rest.drop n := by
  induction n generalizing c with
  | zero => rfl
  | succ n ih => simp [advance, ih]

@[simp] theorem skipBlanks_rest (c : Cursor) :
    c.skipBlanks.rest = c.rest.dropWhile isJsonBlank := by
  rw [skipBlanks, advance_rest, drop_takeWhile]

theorem rest_of_peek {c : Cursor} {b : UInt8} (p : c.peek = some b) : ∃ bs, c.rest = b :: bs := by
  cases h : c.rest with
  | nil => simp [Cursor.peek, h] at p
  | cons a bs => exact ⟨bs, by simpa [Cursor.peek, h] using p⟩

theorem skipBlanks_skipBlanks (c : Cursor) : c.skipBlanks.skipBlanks = c.skipBlanks := by
  rw [Cursor.skipBlanks, skipBlanks_rest, takeWhile_dropWhile]
  rfl

/-- `d` has the text of `c` and `x` after it. -/
structure Extends (x : Bytes) (c d : Cursor) : Prop where
  rest : d.rest = c.rest ++ x

/-- Something is left, or nothing was added. -/
def Settled (x : Bytes) (c : Cursor) : Prop := c.rest ≠ [] ∨ x = []

variable {x : Bytes} {c d : Cursor} {b : UInt8}

theorem settled_of_peek (p : c.peek = some b) : Settled x c := by
  obtain ⟨bs, rest⟩ := rest_of_peek p
  exact Or.inl (by simp [rest])

theorem Extends.peek_eq (e : Extends x c d) (s : Settled x c) : d.peek = c.peek := by
  cases s with
  | inl left =>
    obtain ⟨b, bs, rest⟩ := List.exists_cons_of_ne_nil left
    simp [Cursor.peek, e.rest, rest]
  | inr none => simp [Cursor.peek, e.rest, none]

theorem Extends.peek (e : Extends x c d) (p : c.peek = some b) : d.peek = some b :=
  (e.peek_eq (settled_of_peek p)).trans p

theorem Extends.next (e : Extends x c d) (p : c.peek = some b) : Extends x c.next d.next := by
  obtain ⟨bs, rest⟩ := rest_of_peek p
  exact ⟨by simp [e.rest, rest]⟩

theorem Extends.length_le (e : Extends x c d) : c.rest.length ≤ d.rest.length := by
  rw [e.rest, List.length_append]
  exact Nat.le_add_right ..

theorem Extends.skipBlanks (e : Extends x c d) (s : Settled x c.skipBlanks) :
    Extends x c.skipBlanks d.skipBlanks := by
  rw [Settled, skipBlanks_rest] at s
  refine ⟨?_⟩
  rw [skipBlanks_rest, skipBlanks_rest, e.rest]
  exact (run_append s).2

theorem Extends.takeDigits (e : Extends x c d) (s : Settled x (takeDigits c).2) :
    (takeDigits d).1 = (takeDigits c).1 ∧ Extends x (takeDigits c).2 (takeDigits d).2 := by
  have ends : c.rest.dropWhile isDigit ≠ [] ∨ x = [] := by
    rw [← drop_takeWhile, ← advance_rest]
    exact s
  have run := run_append ends
  rw [← e.rest] at run
  exact ⟨by simp only [Json.takeDigits, run.1],
    ⟨by simp only [Json.takeDigits, advance_rest, drop_takeWhile, run.2]⟩⟩

end Cursor

open Cursor

/-- Whatever `r` gives under the condition, `r'` gives the like of it. -/
def Mirrors {α : Type} (when : α → Prop) (alike : α → α → Prop) (r r' : Except Fault α) : Prop :=
  ∀ a, r = .ok a → when a → ∃ b, r' = .ok b ∧ alike a b

/-- The same value, and the cursor after it with `x` added. -/
structure Alike (x : Bytes) {α : Type} (p q : α × Cursor) : Prop where
  value : q.1 = p.1
  cursor : Extends x p.2 q.2

/-- The longer text lets the same steps pass. -/
abbrev Passes (x : Bytes) := Mirrors (fun _ => True) (Extends x)

/-- The longer text lets the same steps pass if it is settled where they end. -/
abbrev PassesOpen (x : Bytes) := Mirrors (Settled x) (Extends x)

/-- The longer text gives the same value. -/
abbrev Closed (x : Bytes) {α : Type} := Mirrors (fun _ => True) (Alike (α := α) x)

/-- The longer text gives the same value if it is settled where the value ends. -/
abbrev Open (x : Bytes) {α : Type} :=
  Mirrors (fun p : α × Cursor => Settled x p.2) (Alike (α := α) x)

variable {x : Bytes} {c d : Cursor}

namespace Mirrors

variable {α : Type} {when : α → Prop} {alike : α → α → Prop} {r r' s s' : Except Fault α}

theorem error {f : Fault} : Mirrors when alike (.error f) r' := fun _ h => nomatch h

theorem fail {f : Flaw} : Mirrors when alike (c.fail f) r' := error

theorem failNext {f : Flaw} : Mirrors when alike (c.failNext f) r' := error

theorem ok {a b : α} (h : alike a b) : Mirrors when alike (.ok a) (.ok b) :=
  fun _ eq _ => ⟨b, rfl, Except.ok.inj eq ▸ h⟩

theorem ite {p : Prop} [Decidable p] (yes : p → Mirrors when alike r r')
    (no : ¬p → Mirrors when alike s s') :
    Mirrors when alike (if p then r else s) (if p then r' else s') := by
  split
  · exact yes ‹_›
  · exact no ‹_›

/-- What the condition on the result demands may be assumed. -/
theorem assume {p : Prop} (demanded : ∀ a, r = .ok a → when a → p)
    (h : p → Mirrors when alike r r') : Mirrors when alike r r' :=
  fun a eq w => h (demanded a eq w) a eq w

/-- The condition may demand more. -/
theorem strengthen {more : α → Prop} (h : Mirrors when alike r r')
    (demands : ∀ a, r = .ok a → more a → when a) : Mirrors more alike r r' :=
  fun a eq w => h a eq (demands a eq w)

theorem always (h : Mirrors (fun _ => True) alike r r') : Mirrors when alike r r' :=
  h.strengthen fun _ _ _ => trivial

theorem cases (h : Mirrors (fun _ => True) alike r r') :
    (∃ f, r = .error f) ∨ ∃ a b, r = .ok a ∧ r' = .ok b ∧ alike a b := by
  cases r with
  | error f => exact Or.inl ⟨f, rfl⟩
  | ok a =>
    obtain ⟨b, h', same⟩ := h a rfl trivial
    exact Or.inr ⟨a, b, rfl, h', same⟩

/-- The byte at the cursor is the same one. -/
theorem peek (e : Extends x c d) {f : Flaw} {k k' : UInt8 → Except Fault α}
    (h : ∀ b, c.peek = some b → Mirrors when alike (k b) (k' b)) :
    Mirrors when alike (match c.peek with | none => c.fail f | some b => k b)
      (match d.peek with | none => d.fail f | some b => k' b) := by
  cases p : c.peek with
  | none => exact fail
  | some b =>
    rw [e.peek p]
    exact h b p

/-- The byte after the blanks is the same one. -/
theorem blanks (e : Extends x c d) {f : Flaw} {k k' : UInt8 → Except Fault α}
    (h : ∀ b, c.skipBlanks.peek = some b → Extends x c.skipBlanks d.skipBlanks →
      Mirrors when alike (k b) (k' b)) :
    Mirrors when alike
      (match c.skipBlanks.peek with | none => c.skipBlanks.fail f | some b => k b)
      (match d.skipBlanks.peek with | none => d.skipBlanks.fail f | some b => k' b) := by
  cases p : c.skipBlanks.peek with
  | none => exact fail
  | some b =>
    have e := e.skipBlanks (settled_of_peek p)
    rw [e.peek p]
    exact h b p e

section Steps

variable {β : Type}

theorem bind {like : β → β → Prop} {q q' : Except Fault β} {k k' : β → Except Fault α}
    (h : Mirrors (fun _ => True) like q q')
    (next : ∀ a b, like a b → Mirrors when alike (k a) (k' b)) :
    Mirrors when alike (q >>= k) (q' >>= k') := by
  rcases h.cases with ⟨f, rfl⟩ | ⟨a, b, rfl, rfl, same⟩
  · exact error
  · exact next a b same

/-- A step that passes, and what is done after it. -/
theorem step {q q' : Except Fault Cursor} {k k' : Cursor → Except Fault α} :
    Passes x q q' → (∀ c d, Extends x c d → Mirrors when alike (k c) (k' d)) →
      Mirrors when alike (match q with | .error f => .error f | .ok c => k c)
        (match q' with | .error f => .error f | .ok c => k' c) := by
  intro h next
  rcases h.cases with ⟨f, rfl⟩ | ⟨a, b, rfl, rfl, e⟩
  · exact error
  · exact next _ _ e

/-- A value that is read, and what is done with it. -/
theorem read {q q' : Except Fault (β × Cursor)} {k k' : β → Cursor → Except Fault α} :
    Closed x q q' → (∀ b c d, Extends x c d → Mirrors when alike (k b c) (k' b d)) →
      Mirrors when alike (match q with | .error f => .error f | .ok (b, c) => k b c)
        (match q' with | .error f => .error f | .ok (b, c) => k' b c) := by
  intro h next
  rcases h.cases with ⟨f, rfl⟩ | ⟨⟨_, c⟩, ⟨b, d⟩, rfl, rfl, rfl, e⟩
  · exact error
  · exact next b _ _ e

/-- A value put in its place. -/
theorem map {g : β → α} {q q' : Except Fault (β × Cursor)} (h : Open x q q') :
    Open x (q >>= fun (b, c) => .ok (g b, c)) (q' >>= fun (b, c) => .ok (g b, c)) := by
  intro a eq settled
  cases q with
  | error f => cases eq
  | ok p =>
    cases eq
    obtain ⟨p', rfl, same⟩ := h p rfl settled
    exact ⟨_, rfl, congrArg g same.value, same.cursor⟩

end Steps

end Mirrors

/-! ## Words and strings -/

theorem readIdent_passes (es : Bytes) (e : Extends x c d) :
    Passes x (readIdent es c) (readIdent es d) := by
  induction es generalizing c d with
  | nil => exact .ok e
  | cons b es ih => exact .peek e fun a p => .ite (fun _ => ih (e.next p)) fun _ => .fail

theorem readHexEscape_closed (e : Extends x c d) :
    Closed x (readHexEscape c) (readHexEscape d) := by
  unfold readHexEscape
  split
  · rename_i p
    have after : Extends x (c.advance 4) (d.advance 4) := ⟨by simp [e.rest, p]⟩
    rw [e.rest, p]
    simp only [List.cons_append]
    split
    · exact .ok ⟨rfl, after⟩
    · exact .fail
  · exact .fail

theorem readLowSurrogate_closed (high : Nat) (e : Extends x c d) :
    Closed x (readLowSurrogate high c) (readLowSurrogate high d) := by
  unfold readLowSurrogate
  refine .peek e fun b p => .ite (fun _ => .fail) fun _ => ?_
  have e := e.next p
  refine .peek e fun b p => .ite (fun _ => .fail) fun _ => ?_
  refine (readHexEscape_closed (e.next p)).bind fun (_, c') (n, d') ⟨same, e⟩ => ?_
  subst same
  exact .ite (fun _ => .ok ⟨rfl, e⟩) fun _ => .fail

theorem readEscape_closed (e : Extends x c d) :
    Closed x (readEscape c) (readEscape d) := by
  unfold readEscape
  refine .peek e fun b p => ?_
  have e := e.next p
  iterate 8 refine .ite (fun _ => .ok ⟨rfl, e⟩) fun _ => ?_
  refine .ite (fun _ => ?_) fun _ => .fail
  refine (readHexEscape_closed e).bind fun (_, c') (n, d') ⟨same, e⟩ => ?_
  subst same
  exact .ite (fun _ => .fail) fun _ =>
    .ite (fun _ => readLowSurrogate_closed _ e) fun _ => .ok ⟨rfl, e⟩

theorem readStringBytes_closed (acc : Bytes) {fuel fuel' : Nat} (enough : fuel ≤ fuel')
    (e : Extends x c d) :
    Closed x (readStringBytes fuel acc c) (readStringBytes fuel' acc d) := by
  induction fuel generalizing fuel' acc c d with
  | zero => exact .fail
  | succ fuel ih =>
    obtain ⟨fuel', rfl⟩ := Nat.exists_eq_add_of_le' enough
    have enough : fuel ≤ fuel' + fuel := Nat.le_add_left ..
    refine .peek e fun b p => ?_
    have e := e.next p
    refine .ite (fun _ => .ok ⟨rfl, e⟩) fun _ => .ite (fun _ => ?_) fun _ =>
      .ite (fun _ => .fail) fun _ => ih _ enough e
    refine (readEscape_closed e).bind fun (_, c') (ch, d') ⟨same, e⟩ => ?_
    subst same
    exact ih _ enough e

theorem readString_closed (e : Extends x c d) :
    Closed x (readString c) (readString d) := by
  unfold readString
  have enough : c.rest.length + 1 ≤ d.rest.length + 1 := Nat.succ_le_succ e.length_le
  refine (readStringBytes_closed [] enough e).bind fun (_, c') (bs, d') ⟨same, e⟩ => ?_
  subst same
  simp only
  split
  · exact .ok ⟨rfl, e⟩
  · split
    · exact .fail
    · exact .fail

theorem skipStringFrom_passes {fuel fuel' : Nat} (enough : fuel ≤ fuel') (e : Extends x c d) :
    Passes x (skipStringFrom fuel c) (skipStringFrom fuel' d) := by
  induction fuel generalizing fuel' c d with
  | zero => exact .fail
  | succ fuel ih =>
    obtain ⟨fuel', rfl⟩ := Nat.exists_eq_add_of_le' enough
    have enough : fuel ≤ fuel' + fuel := Nat.le_add_left ..
    refine .peek e fun b p => ?_
    have e := e.next p
    refine .ite (fun _ => .ok e) fun _ => .ite (fun _ => ?_) fun _ =>
      .ite (fun _ => .fail) fun _ => ih enough e
    refine .peek e fun b p => ?_
    have e := e.next p
    refine .ite (fun _ => ih enough e) fun _ => .ite (fun _ => ?_) fun _ => .fail
    obtain ⟨f, h⟩ | ⟨⟨_, c'⟩, ⟨n, d'⟩, h, h', rfl, e⟩ := (readHexEscape_closed e).cases
    · rw [h]
      exact .error
    · rw [h, h']
      exact ih enough e

theorem skipString_passes (e : Extends x c d) :
    Passes x (skipString c) (skipString d) :=
  skipStringFrom_passes (Nat.succ_le_succ e.length_le) e

/-! ## Numbers -/

/-- The sign of an exponent. -/
def exponentSign (c : Cursor) : Bool × Cursor :=
  match c.peek with
  | some 0x2B => (false, c.next)
  | some 0x2D => (true, c.next)
  | _ => (false, c)

theorem exponentSign_extends (e : Extends x c d) {b : UInt8}
    (p : (exponentSign c).2.peek = some b) :
    (exponentSign d).1 = (exponentSign c).1 ∧ Extends x (exponentSign c).2 (exponentSign d).2 := by
  unfold exponentSign at p ⊢
  cases first : c.peek with
  | none =>
    rw [first] at p
    cases first.symm.trans p
  | some a =>
    rw [e.peek first]
    split
    · exact ⟨rfl, e.next first⟩
    · exact ⟨rfl, e.next first⟩
    · exact ⟨rfl, e⟩

section Numbers

variable {c' : Cursor} {n : Number} {negative : Bool} {s : Nat} {k : Int}

theorem finishReal_cursor {a : Number × Cursor} (h : finishReal negative s k c = .ok a) :
    a.2 = c := by
  unfold finishReal at h
  split at h
  · cases h
    rfl
  · cases h

theorem finishWhole_cursor {a : Number × Cursor} (h : finishWhole negative s c = .ok a) :
    a.2 = c := by
  unfold finishWhole at h
  split at h
  · cases h
    rfl
  · split at h
    · cases h
      rfl
    · exact finishReal_cursor h

/-- The exponent, once its sign is read. -/
def readSignedExponent (negative : Bool) (s : Nat) (k : Int) (down : Bool) (c : Cursor) :
    Except Fault (Number × Cursor) :=
  match c.peek with
  | none => c.fail .endInValue
  | some b =>
      if isDigit b then
        match absorb exponentLimit 0 (takeDigits c).1 with
        | (e, []) => finishReal negative s (if down then k - e else k + e) (takeDigits c).2
        | (_, _ :: more) =>
            if s ≠ 0 ∧ ¬ down then
              (c.advance ((takeDigits c).1.length - more.length)).fail .numberOutOfRange
            else .ok (.real (Binary64.zero.withSign negative), (takeDigits c).2)
      else c.next.fail .invalidNumber

theorem readExponent_eq (c : Cursor) : readExponent negative s k c =
    readSignedExponent negative s k (exponentSign c.next).1 (exponentSign c.next).2 := rfl

theorem finishReal_closed (e : Extends x c d) :
    Closed x (finishReal negative s k c) (finishReal negative s k d) := by
  unfold finishReal
  split
  · exact .ok ⟨rfl, e⟩
  · exact .fail

theorem finishWhole_closed (e : Extends x c d) :
    Closed x (finishWhole negative s c) (finishWhole negative s d) := by
  unfold finishWhole
  refine .ite (fun _ => .ok ⟨rfl, e⟩) fun _ => ?_
  split
  · exact .ok ⟨rfl, e⟩
  · exact finishReal_closed e

theorem readSignedExponent_open {down : Bool} (e : Extends x c d) :
    Open x (readSignedExponent negative s k down c) (readSignedExponent negative s k down d) := by
  unfold readSignedExponent
  refine .peek e fun b p => .ite (fun _ => ?_) fun _ => .fail
  refine .assume (p := Settled x (takeDigits c).2) ?last fun settled => ?_
  case last =>
    intro a h settled
    split at h
    · rwa [← finishReal_cursor h]
    · split at h
      · cases h
      · cases h
        exact settled
  obtain ⟨ds, after⟩ := e.takeDigits settled
  rw [ds]
  split
  · exact (finishReal_closed after).always
  · exact .ite (fun _ => .fail) fun _ => .ok ⟨rfl, after⟩

theorem readExponent_open {b : UInt8} (e : Extends x c d) (p : c.peek = some b) :
    Open x (readExponent negative s k c) (readExponent negative s k d) := by
  rw [readExponent_eq, readExponent_eq]
  cases q : (exponentSign c.next).2.peek with
  | none =>
    rw [readSignedExponent, q]
    exact .fail
  | some a =>
    obtain ⟨same, e⟩ := exponentSign_extends (e.next p) q
    rw [same]
    exact readSignedExponent_open e

theorem readFraction_open {b : UInt8} (e : Extends x c d) (p : c.peek = some b) :
    Open x (readFraction negative s k c) (readFraction negative s k d) := by
  have e := e.next p
  unfold readFraction
  refine .assume (p := Settled x (takeDigits c.next).2) ?last fun settled => ?_
  case last =>
    intro a h settled
    cases q : (takeDigits c.next).2.peek with
    | none =>
      simp only [q] at h
      split at h
      · split at h
        · cases h
        · cases h
      · rwa [← finishReal_cursor h]
    | some b => exact settled_of_peek q
  obtain ⟨ds, after⟩ := e.takeDigits settled
  simp only [ds, after.peek_eq settled]
  refine .ite (fun _ => ?_) fun _ => ?_
  · split
    · exact .failNext
    · exact .fail
  · cases q : (takeDigits c.next).2.peek with
    | none => exact (finishReal_closed after).always
    | some b =>
      exact .ite (fun _ => readExponent_open after q) fun _ => (finishReal_closed after).always

/-- Where a number is settled, it was settled after its integer digits. -/
theorem readNumberTail_settled {extra : Nat} {a : Number × Cursor}
    (h : readNumberTail negative s extra c = .ok a) (settled : Settled x a.2) : Settled x c := by
  cases p : c.peek with
  | some b => exact settled_of_peek p
  | none =>
    simp only [readNumberTail, p] at h
    split at h
    · rwa [← finishWhole_cursor h]
    · rwa [← finishReal_cursor h]

theorem readNumberTail_open {extra : Nat} (e : Extends x c d) :
    Open x (readNumberTail negative s extra c) (readNumberTail negative s extra d) := by
  have done : Closed x
      (if extra = 0 then finishWhole negative s c else finishReal negative s extra c)
      (if extra = 0 then finishWhole negative s d else finishReal negative s extra d) :=
    .ite (fun _ => finishWhole_closed e) fun _ => finishReal_closed e
  refine .assume (fun _ => readNumberTail_settled) fun settled => ?_
  unfold readNumberTail
  rw [e.peek_eq settled]
  cases p : c.peek with
  | none => exact done.always
  | some b =>
    exact .ite (fun _ => readFraction_open e p) fun _ =>
      .ite (fun _ => readExponent_open e p) fun _ => done.always

theorem readNumber_open (e : Extends x c d) :
    Open x (readNumber negative c) (readNumber negative d) := by
  unfold readNumber
  refine .peek e fun b p => .ite (fun _ => ?zero) fun _ => .ite (fun _ => ?digits) fun _ => .fail
  case zero =>
    have e := e.next p
    cases q : c.next.peek with
    | none =>
      refine .assume (fun _ => readNumberTail_settled) fun settled => ?_
      rw [e.peek_eq settled, q]
      exact readNumberTail_open e
    | some a =>
      rw [e.peek q]
      exact .ite (fun _ => .failNext) fun _ => readNumberTail_open e
  case digits =>
    refine .assume (fun _ => readNumberTail_settled) fun settled => ?_
    obtain ⟨ds, after⟩ := e.takeDigits settled
    simp only [ds]
    exact readNumberTail_open after

end Numbers

/-! ## Numbers that are skipped -/

/-- Past an exponent whose sign is read. -/
def skipSignedExponent (c : Cursor) : Except Fault Cursor :=
  match c.peek with
  | some b => if isDigit b then .ok (takeDigits c).2 else c.next.fail .invalidNumber
  | none => c.fail .invalidNumber

theorem exponentSign_cursor (c : Cursor) :
    (match c.peek with
      | some 0x2B => c.next
      | some 0x2D => c.next
      | _ => c) = (exponentSign c).2 := by
  unfold exponentSign
  split
  · rfl
  · rfl
  · rfl

theorem skipExponent_eq (c : Cursor) :
    skipExponent c = skipSignedExponent (exponentSign c.next).2 :=
  congrArg skipSignedExponent (exponentSign_cursor c.next)

theorem skipExponent_open {b : UInt8} (e : Extends x c d) (p : c.peek = some b) :
    PassesOpen x (skipExponent c) (skipExponent d) := by
  rw [skipExponent_eq, skipExponent_eq]
  cases q : (exponentSign c.next).2.peek with
  | none =>
    rw [skipSignedExponent, q]
    exact .fail
  | some a =>
    obtain ⟨_, e⟩ := exponentSign_extends (e.next p) q
    simp only [skipSignedExponent, q, e.peek q]
    refine .ite (fun _ => ?_) fun _ => .fail
    refine .assume (p := Settled x (takeDigits (exponentSign c.next).2).2) ?_ fun settled =>
      .ok (e.takeDigits settled).2
    intro a h settled
    cases h
    exact settled

theorem skipNumberTail_settled {c' : Cursor} (h : skipNumberTail c = .ok c')
    (settled : Settled x c') : Settled x c := by
  cases p : c.peek with
  | some b => exact settled_of_peek p
  | none =>
    simp only [skipNumberTail, p] at h
    cases h
    exact settled

theorem skipNumberTail_open (e : Extends x c d) :
    PassesOpen x (skipNumberTail c) (skipNumberTail d) := by
  refine .assume (fun _ => skipNumberTail_settled) fun settled => ?_
  unfold skipNumberTail
  rw [e.peek_eq settled]
  cases p : c.peek with
  | none => exact .ok e
  | some b =>
    refine .ite (fun _ => ?fraction) fun _ => .ite (fun _ => skipExponent_open e p) fun _ => .ok e
    case fraction =>
      simp only
      refine .assume (p := Settled x (takeDigits c.next).2) ?last fun settled => ?_
      case last =>
        intro a h settled
        split at h
        · cases h
        · cases q : (takeDigits c.next).2.peek with
          | some b => exact settled_of_peek q
          | none =>
            simp only [q] at h
            cases h
            exact settled
      obtain ⟨ds, after⟩ := (e.next p).takeDigits settled
      rw [ds, after.peek_eq settled]
      refine .ite (fun _ => .failNext) fun _ => ?_
      cases q : (takeDigits c.next).2.peek with
      | none => exact .ok after
      | some b => exact .ite (fun _ => skipExponent_open after q) fun _ => .ok after

theorem skipNumber_open (e : Extends x c d) : PassesOpen x (skipNumber c) (skipNumber d) := by
  unfold skipNumber
  refine .peek e fun b p => .ite (fun _ => ?zero) fun _ => .ite (fun _ => ?digits) fun _ => .fail
  case zero =>
    have e := e.next p
    cases q : c.next.peek with
    | none =>
      refine .assume (fun _ => skipNumberTail_settled) fun settled => ?_
      rw [e.peek_eq settled, q]
      exact skipNumberTail_open e
    | some a =>
      rw [e.peek q]
      exact .ite (fun _ => .failNext) fun _ => skipNumberTail_open e
  case digits =>
    refine .assume (fun _ => skipNumberTail_settled) fun settled => ?_
    exact skipNumberTail_open (e.takeDigits settled).2

end NotebookKernel.Json
