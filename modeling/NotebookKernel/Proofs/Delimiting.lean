import NotebookKernel.Json.Kind
import NotebookKernel.Proofs.Lookahead

/-!
# Texts that show their own end

A list or an object is over with its closing bracket, and what follows has no say in what was
read. A number at the end of a text is the only value that more text can change. This holds of
values that are read, of values that are skipped and of documents read by their description.
-/

namespace NotebookKernel.Json

open Cursor

variable {x : Bytes} {c d : Cursor}

/-! ## Commas, colons and closing brackets -/

theorem anotherItem_closed (first : Bool) (e : Extends x c d) :
    Closed x (anotherItem first c) (anotherItem first d) := by
  unfold anotherItem
  refine .blanks e fun b p e => .ite (fun _ => .ok ⟨rfl, e⟩) fun _ =>
    .ite (fun _ => .ok ⟨rfl, e⟩) fun _ => .ite (fun _ => ?_) fun _ => .failNext
  simp only
  cases q : c.skipBlanks.next.skipBlanks.peek with
  | none => exact .fail
  | some b =>
    have e := (e.next p).skipBlanks (settled_of_peek q)
    simp only [e.peek q]
    split
    · exact .failNext
    · exact .ok ⟨rfl, e⟩
    · exact .fail

theorem anotherField_closed (first : Bool) (e : Extends x c d) :
    Closed x (anotherField first c) (anotherField first d) := by
  unfold anotherField
  refine .blanks e fun b p e => .ite (fun _ => .ok ⟨rfl, e⟩) fun _ =>
    .ite (fun _ => .ite (fun _ => .ok ⟨rfl, e⟩) fun _ => .failNext) fun _ =>
    .ite (fun _ => ?_) fun _ => .failNext
  simp only
  cases q : c.skipBlanks.next.skipBlanks.peek with
  | none => exact .fail
  | some b =>
    have e := (e.next p).skipBlanks (settled_of_peek q)
    simp only [e.peek q]
    split
    · exact .ok ⟨rfl, e⟩
    · exact .failNext
    · exact .failNext
    · exact .fail

theorem closeList_passes (e : Extends x c d) : Passes x (closeList c) (closeList d) := by
  unfold closeList
  cases p : c.skipBlanks.peek with
  | none => simp only [p]; exact .fail
  | some b =>
    have e := e.skipBlanks (settled_of_peek p)
    simp only [p, e.peek p]
    split
    · exact .ok (e.next p)
    · split
      · exact .failNext
      · exact .failNext
    · exact .failNext
    · exact .fail

theorem closeObject_passes (e : Extends x c d) : Passes x (closeObject c) (closeObject d) := by
  unfold closeObject
  cases p : c.skipBlanks.peek with
  | none => simp only [p]; exact .fail
  | some b =>
    have e := e.skipBlanks (settled_of_peek p)
    simp only [p, e.peek p]
    split
    · exact .ok (e.next p)
    · exact .failNext
    · exact .failNext
    · exact .fail

theorem readColon_passes (e : Extends x c d) : Passes x (readColon c) (readColon d) := by
  unfold readColon
  cases p : c.skipBlanks.peek with
  | none => simp only [p]; exact .fail
  | some b =>
    have e := e.skipBlanks (settled_of_peek p)
    simp only [p, e.peek p]
    split
    · exact .ok (e.next p)
    · exact .failNext
    · exact .fail

/-- A field is sought up to the opening mark of its name. -/
theorem anotherField_more {first : Bool} {c' : Cursor}
    (h : anotherField first c = .ok (true, c')) : c'.peek = some 0x22 := by
  unfold anotherField at h
  grind [Cursor.fail, Cursor.failNext]

/-! ## Where something must follow -/

theorem skipBlanks_ended (ended : c.rest = []) : c.skipBlanks.peek = none := by
  simp [Cursor.peek, ended]

theorem anotherItem_ended (first : Bool) (ended : c.rest = []) :
    ∃ f, anotherItem first c = .error f :=
  ⟨_, by rw [anotherItem, skipBlanks_ended ended]; rfl⟩

theorem anotherField_ended (first : Bool) (ended : c.rest = []) :
    ∃ f, anotherField first c = .error f :=
  ⟨_, by rw [anotherField, skipBlanks_ended ended]; rfl⟩

theorem closeList_ended (ended : c.rest = []) : ∃ f, closeList c = .error f :=
  ⟨_, by rw [closeList, skipBlanks_ended ended]; rfl⟩

section Brackets

variable {α σ : Type}

theorem readItems_ended (read : Cursor → Except Fault (α × Cursor)) (fuel : Nat) (first : Bool)
    (acc : List α) (ended : c.rest = []) : ∃ f, readItems read fuel first acc c = .error f := by
  cases fuel with
  | zero => exact ⟨_, rfl⟩
  | succ fuel =>
    obtain ⟨f, h⟩ := anotherItem_ended first ended
    exact ⟨f, by rw [readItems, h]⟩

theorem readFields_ended (read : String → σ → Cursor → Except Fault (σ × Cursor)) (fuel : Nat)
    (first : Bool) (s : σ) (ended : c.rest = []) :
    ∃ f, readFields read fuel first s c = .error f := by
  cases fuel with
  | zero => exact ⟨_, rfl⟩
  | succ fuel =>
    obtain ⟨f, h⟩ := anotherField_ended first ended
    exact ⟨f, by rw [readFields, h]⟩

/-- A value after which something must follow need not show its own end. -/
theorem Mirrors.followed {β : Type} {when : β → Prop} {alike : β → β → Prop}
    {q q' : Except Fault (α × Cursor)} {k k' : α → Cursor → Except Fault β} :
    Open x q q' → (∀ a c, c.rest = [] → ∃ f, k a c = .error f) →
      (∀ a c d, Extends x c d → Mirrors when alike (k a c) (k' a d)) →
      Mirrors when alike (match q with | .error f => .error f | .ok (a, c) => k a c)
        (match q' with | .error f => .error f | .ok (a, c) => k' a c) := by
  intro h must next
  cases q with
  | error f => exact .error
  | ok p =>
    obtain ⟨a, c⟩ := p
    by_cases ended : c.rest = []
    · obtain ⟨f, none⟩ := must a c ended
      simp only [none]
      exact .error
    · obtain ⟨⟨_, d⟩, rfl, rfl, e⟩ := h (a, c) rfl (Or.inl ended)
      exact next _ c d e

/-! ## Lists and objects -/

theorem readItems_closed {read : Cursor → Except Fault (α × Cursor)}
    (item : ∀ c d, Extends x c d → Open x (read c) (read d))
    {fuel fuel' : Nat} (enough : fuel ≤ fuel') (first : Bool) (acc : List α) (e : Extends x c d) :
    Closed x (readItems read fuel first acc c) (readItems read fuel' first acc d) := by
  induction fuel generalizing fuel' first acc c d with
  | zero => exact .fail
  | succ fuel ih =>
    obtain ⟨fuel', rfl⟩ := Nat.exists_eq_add_of_le' enough
    have enough : fuel ≤ fuel' + fuel := Nat.le_add_left ..
    simp only [readItems]
    obtain ⟨f, h⟩ | ⟨⟨_, c'⟩, ⟨more, d'⟩, h, h', rfl, e⟩ := (anotherItem_closed first e).cases
    · rw [h]
      exact .error
    · rw [h, h']
      cases more with
      | false => exact .ok ⟨rfl, e⟩
      | true =>
        exact .followed (item _ _ e) (fun a _ => readItems_ended read fuel false (a :: acc))
          fun a _ _ e => ih enough false (a :: acc) e

theorem readList_closed {read : Cursor → Except Fault (α × Cursor)}
    (item : ∀ c d, Extends x c d → Open x (read c) (read d))
    {b : UInt8} (e : Extends x c d) (p : c.peek = some b) :
    Closed x (readList read c) (readList read d) := by
  unfold readList
  have enough : c.rest.length + 1 ≤ d.rest.length + 1 := Nat.succ_le_succ e.length_le
  refine (readItems_closed item enough true [] (e.next p)).bind fun (_, _) (_, _) ⟨same, e⟩ => ?_
  subst same
  exact (closeList_passes e).bind fun _ _ e => .ok ⟨rfl, e⟩

theorem readFields_closed {read : String → σ → Cursor → Except Fault (σ × Cursor)}
    (field : ∀ name s c d, Extends x c d → Open x (read name s c) (read name s d))
    {fuel fuel' : Nat} (enough : fuel ≤ fuel') (first : Bool) (s : σ) (e : Extends x c d) :
    Closed x (readFields read fuel first s c) (readFields read fuel' first s d) := by
  induction fuel generalizing fuel' first s c d with
  | zero => exact .fail
  | succ fuel ih =>
    obtain ⟨fuel', rfl⟩ := Nat.exists_eq_add_of_le' enough
    have enough : fuel ≤ fuel' + fuel := Nat.le_add_left ..
    simp only [readFields]
    obtain ⟨f, h⟩ | ⟨⟨_, c'⟩, ⟨more, d'⟩, h, h', rfl, e⟩ := (anotherField_closed first e).cases
    · rw [h]
      exact .error
    · rw [h, h']
      cases more with
      | false => exact .ok ⟨rfl, e⟩
      | true =>
        simp only
        obtain ⟨f, h⟩ | ⟨⟨_, c'⟩, ⟨name, d'⟩, h, h', rfl, e⟩ :=
          (readString_closed (e.next (anotherField_more h))).cases
        · rw [h]
          exact .error
        · rw [h, h']
          exact .followed (field name s _ _ e) (fun s _ => readFields_ended read fuel false s)
            fun s _ _ e => ih enough false s e

theorem readObject_closed {read : String → σ → Cursor → Except Fault (σ × Cursor)}
    (field : ∀ name s c d, Extends x c d → Open x (read name s c) (read name s d))
    (s : σ) {b : UInt8} (e : Extends x c d) (p : c.peek = some b) :
    Closed x (readObject read s c) (readObject read s d) := by
  unfold readObject
  have enough : c.rest.length + 1 ≤ d.rest.length + 1 := Nat.succ_le_succ e.length_le
  refine (readFields_closed field enough true s (e.next p)).bind fun (_, _) (_, _) ⟨same, e⟩ => ?_
  subst same
  exact (closeObject_passes e).bind fun _ _ e => .ok ⟨rfl, e⟩

end Brackets

/-! ## Values -/

theorem readEntry_open {readValue : Cursor → Except Fault (Value × Cursor)}
    (value : ∀ c d, Extends x c d → Open x (readValue c) (readValue d))
    (name : String) (s : Dict) (e : Extends x c d) :
    Open x (readEntry readValue name s c) (readEntry readValue name s d) :=
  (readColon_passes e).bind fun _ _ e => Mirrors.map (g := fun v => s.insert name v) (value _ _ e)

/-- Does the value stand in brackets? -/
def Value.Bracketed : Value → Prop
  | .array _ => True
  | .fields _ => True
  | _ => False

/-- Results for scalars, which do not stand in brackets. -/
structure ScalarsAlike (x : Bytes) (r r' : Except Fault (Value × Cursor)) : Prop where
  alike : Open x r r'
  plain : ∀ p, r = .ok p → ¬p.1.Bracketed

theorem word_alike (es : Bytes) {v : Value} (plain : ¬v.Bracketed) (e : Extends x c d) :
    ScalarsAlike x (readIdent es c >>= fun c => .ok (v, c))
      (readIdent es d >>= fun c => .ok (v, c)) := by
  refine ⟨(readIdent_passes es e).bind fun _ _ e => .ok ⟨rfl, e⟩, ?_⟩
  intro p h
  cases r : readIdent es c with
  | error f =>
    rw [r] at h
    cases h
  | ok c' =>
    rw [r] at h
    cases h
    exact plain

theorem map_alike {α : Type} {g : α → Value} (plain : ∀ a, ¬(g a).Bracketed)
    {r r' : Except Fault (α × Cursor)} (h : Open x r r') :
    ScalarsAlike x (r >>= fun (a, c) => .ok (g a, c)) (r' >>= fun (a, c) => .ok (g a, c)) := by
  refine ⟨h.map, ?_⟩
  intro p h
  cases r with
  | error f => cases h
  | ok q =>
    cases h
    exact plain q.1

/-- The first byte tells whether a scalar is read. -/
theorem readScalar_cases {b : UInt8} (e : Extends x c d) (p : c.peek = some b) :
    (readScalar b c = none ∧ readScalar b d = none) ∨
      ∃ r r', readScalar b c = some r ∧ readScalar b d = some r' ∧ ScalarsAlike x r r' := by
  have after := e.next p
  unfold readScalar
  split
  · exact Or.inr ⟨_, _, rfl, rfl, word_alike _ id after⟩
  · split
    · exact Or.inr ⟨_, _, rfl, rfl, word_alike _ id after⟩
    · split
      · exact Or.inr ⟨_, _, rfl, rfl, word_alike _ id after⟩
      · split
        · exact Or.inr ⟨_, _, rfl, rfl, map_alike (fun _ => id) (readNumber_open after)⟩
        · split
          · exact Or.inr ⟨_, _, rfl, rfl, map_alike (fun _ => id) (readNumber_open e)⟩
          · split
            · exact Or.inr ⟨_, _, rfl, rfl,
                map_alike (fun _ => id) (readString_closed after).always⟩
            · exact Or.inl ⟨rfl, rfl⟩

/-- A value in brackets shows its own end, any other one where something follows. -/
theorem readValue_mirrors (room : Nat) (e : Extends x c d) :
    Mirrors (fun p => Settled x p.2 ∨ p.1.Bracketed) (Alike x) (readValue room c)
      (readValue room d) := by
  induction room generalizing c d with
  | zero =>
    unfold readValue
    refine .blanks e fun b p e => ?_
    obtain ⟨h, h'⟩ | ⟨r, r', h, h', scalar⟩ := readScalar_cases e p
    · rw [h, h']
      exact .ite (fun _ => .failNext) fun _ => .ite (fun _ => .failNext) fun _ => .failNext
    · rw [h, h']
      exact scalar.alike.strengthen fun q eq w => w.resolve_right (scalar.plain q eq)
  | succ room ih =>
    have value (c d : Cursor) (e : Extends x c d) :
        Open x (readValue room c) (readValue room d) :=
      (ih e).strengthen fun _ _ settled => Or.inl settled
    unfold readValue
    refine .blanks e fun b p e => ?_
    obtain ⟨h, h'⟩ | ⟨r, r', h, h', scalar⟩ := readScalar_cases e p
    · rw [h, h']
      refine .ite (fun _ => ?_) fun _ => .ite (fun _ => ?_) fun _ => .failNext
      · exact (readList_closed value e p).bind fun _ _ same =>
          .ok ⟨congrArg Value.array same.value, same.cursor⟩
      · exact (readObject_closed (fun name s _ _ e => readEntry_open value name s e) _ e p).bind
          fun _ _ same => .ok ⟨congrArg Value.fields same.value, same.cursor⟩
    · rw [h, h']
      exact scalar.alike.strengthen fun q eq w => w.resolve_right (scalar.plain q eq)

theorem readValue_open (room : Nat) (e : Extends x c d) :
    Open x (readValue room c) (readValue room d) :=
  (readValue_mirrors room e).strengthen fun _ _ settled => Or.inl settled

/-! ## Values that are skipped -/

theorem skipName_passes (f : Frame) (e : Extends x c d) :
    Passes x (skipName f c) (skipName f d) := by
  cases f with
  | list => exact .ok e
  | object =>
    simp only [skipName]
    cases p : c.skipBlanks.peek with
    | none => exact .fail
    | some b =>
      have e := e.skipBlanks (settled_of_peek p)
      simp only [e.peek p]
      split
      · exact (skipString_passes (e.next p)).bind fun _ _ e => readColon_passes e
      · exact .failNext
      · exact .fail

theorem skipScalar_cases {b : UInt8} (e : Extends x c d) (p : c.peek = some b) :
    (skipScalar b c = none ∧ skipScalar b d = none) ∨
      ∃ r r', skipScalar b c = some r ∧ skipScalar b d = some r' ∧ PassesOpen x r r' := by
  have after := e.next p
  unfold skipScalar
  split
  · exact Or.inr ⟨_, _, rfl, rfl, (readIdent_passes _ after).always⟩
  · split
    · exact Or.inr ⟨_, _, rfl, rfl, (readIdent_passes _ after).always⟩
    · split
      · exact Or.inr ⟨_, _, rfl, rfl, (readIdent_passes _ after).always⟩
      · split
        · exact Or.inr ⟨_, _, rfl, rfl, skipNumber_open after⟩
        · split
          · exact Or.inr ⟨_, _, rfl, rfl, skipNumber_open e⟩
          · split
            · exact Or.inr ⟨_, _, rfl, rfl, (skipString_passes after).always⟩
            · exact Or.inl ⟨rfl, rfl⟩

theorem skipInside_ended (fuel : Nat) (f : Frame) (outer : List Frame) (comma : Bool)
    (ended : c.rest = []) : ∃ e, skipFrom fuel (f :: outer) (.inside comma) c = .error e := by
  have none := skipBlanks_ended ended
  cases fuel with
  | zero => exact ⟨_, rfl⟩
  | succ fuel => exact ⟨_, by simp only [skipFrom, none]; rfl⟩

/-- A skipped scalar may end the text only outside all brackets. -/
theorem skipFrom_settled {fuel : Nat} {frames : List Frame} {c' : Cursor}
    (h : (if frames = [] then .ok c else skipFrom fuel frames (.inside true) c) = .ok c')
    (settled : Settled x c') : Settled x c := by
  cases frames with
  | nil =>
    cases h
    exact settled
  | cons f outer =>
    by_cases ended : c.rest = []
    · obtain ⟨f, none⟩ := skipInside_ended fuel f outer true ended
      rw [if_neg (List.cons_ne_nil _ _), none] at h
      cases h
    · exact Or.inl ended

theorem skipFrom_open {fuel fuel' : Nat} (enough : fuel ≤ fuel') (frames : List Frame)
    (stage : Stage) (e : Extends x c d) :
    PassesOpen x (skipFrom fuel frames stage c) (skipFrom fuel' frames stage d) := by
  induction fuel generalizing fuel' frames stage c d with
  | zero =>
    simp only [skipFrom]
    exact .fail
  | succ fuel ih =>
    obtain ⟨fuel', rfl⟩ := Nat.exists_eq_add_of_le' enough
    have enough : fuel ≤ fuel' + fuel := Nat.le_add_left ..
    cases stage with
    | value =>
      simp only [skipFrom]
      refine .blanks e fun b p e => ?_
      obtain ⟨h, h'⟩ | ⟨r, r', h, h', passes⟩ := skipScalar_cases e p
      · rw [h, h']
        exact .ite (fun _ => ih enough _ _ (e.next p)) fun _ =>
          .ite (fun _ => ih enough _ _ (e.next p)) fun _ => .failNext
      · rw [h, h']
        cases r with
        | error f => exact .error
        | ok c' =>
          refine .assume (fun _ => skipFrom_settled) fun settled => ?_
          obtain ⟨d', rfl, e⟩ := passes c' rfl settled
          exact .ite (fun _ => .ok e) fun _ => ih enough _ _ e
    | inside comma =>
      cases frames with
      | nil =>
        simp only [skipFrom]
        exact .ok e
      | cons f outer =>
        simp only [skipFrom]
        refine .blanks e fun b p e => .ite (fun _ => ?_) fun _ => .ite (fun _ => ?_) fun _ =>
          .ite (fun _ => .failNext) fun _ => ?_
        · exact .step (skipName_passes f (e.next p)) fun _ _ e => ih enough _ _ e
        · exact .ite (fun _ => .ok (e.next p)) fun _ => ih enough _ _ (e.next p)
        · exact .step (skipName_passes f e) fun _ _ e => ih enough _ _ e

theorem skipValue_open (e : Extends x c d) : PassesOpen x (skipValue c) (skipValue d) :=
  have longer := e.length_le
  skipFrom_open (by omega) _ _ e

/-! ## Documents -/

/-- Was what is read for the kind written in brackets? -/
def Kind.Bracketed : (k : Kind) → k.Carrier → Prop
  | .any, v => Value.Bracketed v
  | .dict, _ => True
  | .list _, _ => True
  | .record _ _, _ => True
  | _, _ => False

theorem readOther_error {α : Type} (wanted : String) (c : Cursor) :
    ∃ f, (readOther wanted c : Except Fault α) = .error f := by
  unfold readOther
  split
  · exact ⟨_, rfl⟩
  · split
    · exact ⟨_, rfl⟩
    · exact ⟨_, rfl⟩
    · split
      · exact ⟨_, rfl⟩
      · split
        · exact ⟨_, rfl⟩
        · exact ⟨_, rfl⟩

/-- A number that was read, converted. -/
def converted {α : Type} (convert : Number → Except Mismatch α) :
    Except Fault (Number × Cursor) → Except Fault (α × Cursor)
  | .error f => .error f
  | .ok (n, after) =>
      match convert n with
      | .ok a => .ok (a, after)
      | .error m => .error (.mismatch m (some after.place))

theorem readConverted_eq {α : Type} (convert : Number → Except Mismatch α) (wanted : String)
    (b : UInt8) (c : Cursor) : readConverted convert wanted b c =
      if b = 0x2D then converted convert (readNumber true c.next)
      else if isDigit b then converted convert (readNumber false c)
      else readOther wanted c := by
  unfold readConverted
  by_cases minus : b = 0x2D
  · simp only [minus, if_true]
    cases readNumber true c.next with
    | error f => rfl
    | ok p => rfl
  · by_cases digit : isDigit b = true
    · simp only [minus, digit, if_true, if_false]
      cases readNumber false c with
      | error f => rfl
      | ok p => rfl
    · simp [minus, digit]

namespace Mirrors

variable {α : Type}

theorem other {when : α → Prop} {alike : α → α → Prop} {wanted : String} {r' : Except Fault α} :
    Mirrors when alike (readOther wanted c) r' := by
  obtain ⟨f, h⟩ := readOther_error (α := α) wanted c
  rw [h]
  exact .error

/-- The bracket that opens a document takes room. -/
theorem room {when : α → Prop} {alike : α → α → Prop} {room : Nat}
    {read read' : Nat → Except Fault α} (h : ∀ n, Mirrors when alike (read n) (read' n)) :
    Mirrors when alike (withRoom room c read) (withRoom room d read') := by
  cases room with
  | zero => exact .failNext
  | succ room => exact h room

theorem number {convert : Number → Except Mismatch α} {r r' : Except Fault (Number × Cursor)}
    (h : Open x r r') : Open x (converted convert r) (converted convert r') := by
  intro a eq settled
  cases r with
  | error f => cases eq
  | ok p =>
    simp only [converted] at eq
    cases out : convert p.1 with
    | error m =>
      rw [out] at eq
      cases eq
    | ok v =>
      rw [out] at eq
      cases eq
      obtain ⟨⟨_, after⟩, rfl, rfl, e⟩ := h p rfl settled
      exact ⟨(v, after), by simp only [converted, out], rfl, e⟩

/-- A condition that nothing fulfils may be left out. -/
theorem unbracketed {p : α → Prop} {r r' : Except Fault (α × Cursor)} (h : Open x r r')
    (never : ∀ a, ¬p a) : Mirrors (fun q => Settled x q.2 ∨ p q.1) (Alike x) r r' :=
  h.strengthen fun _ _ w => w.resolve_right (never _)

/-- A value put in its place; failures stay as they are. -/
theorem place {β : Type} {g : β → α} {q q' : Except Fault (β × Cursor)}
    {r r' : Except Fault (α × Cursor)} (h : Open x q q') (bad : ∀ f, q = .error f → r = .error f)
    (good : ∀ b c, q = .ok (b, c) → r = .ok (g b, c))
    (good' : ∀ b c, q' = .ok (b, c) → r' = .ok (g b, c)) : Open x r r' := by
  intro a eq settled
  cases out : q with
  | error f => cases (bad f out).symm.trans eq
  | ok p =>
    cases (good p.1 p.2 out).symm.trans eq
    obtain ⟨⟨_, d⟩, out', rfl, e⟩ := h p out settled
    exact ⟨_, good' _ _ out', rfl, e⟩

/-- A step that passes, in place of a value; failures stay as they are. -/
theorem word {a : α} {q q' : Except Fault Cursor} {r r' : Except Fault (α × Cursor)}
    (h : PassesOpen x q q') (bad : ∀ f, q = .error f → r = .error f)
    (good : ∀ c, q = .ok c → r = .ok (a, c)) (good' : ∀ c, q' = .ok c → r' = .ok (a, c)) :
    Open x r r' := by
  intro p eq settled
  cases out : q with
  | error f => cases (bad f out).symm.trans eq
  | ok c =>
    cases (good c out).symm.trans eq
    obtain ⟨d, out', e⟩ := h c out settled
    exact ⟨_, good' d out', rfl, e⟩

end Mirrors

theorem readConverted_open {α : Type} (convert : Number → Except Mismatch α) (wanted : String)
    {b : UInt8} (e : Extends x c d) (p : c.peek = some b) :
    Open x (readConverted convert wanted b c) (readConverted convert wanted b d) := by
  rw [readConverted_eq, readConverted_eq]
  exact .ite (fun _ => .number (readNumber_open (e.next p))) fun _ =>
    .ite (fun _ => .number (readNumber_open e)) fun _ => .other

/-- Nothing is read from nothing. -/
theorem Kind.read_ended (k : Kind) (room : Nat) {c : Cursor} (ended : c.rest = []) :
    ∃ f, k.read room c = .error f := by
  match k with
  | .optional k =>
    have none : c.skipBlanks.rest = [] := by simp [ended]
    obtain ⟨f, h⟩ := Kind.read_ended k room none
    exact ⟨f, by simp only [Kind.read, skipBlanks_ended ended, h]⟩
  | .any =>
    unfold Kind.read readValue
    simp only [skipBlanks_ended ended]
    exact ⟨_, rfl⟩
  | .text _ | .flag | .natural _ _ | .integer | .dict | .choice _ | .list _ | .record _ _ =>
    exact ⟨_, by simp only [Kind.read, skipBlanks_ended ended]; rfl⟩

/-- Where the items of an array are settled, they were settled before. -/
theorem readElements_settled {fields : Fields} {name : String} {total index : Nat} {first : Bool}
    {room : Nat} {p : fields.Carrier × Cursor}
    (h : fields.readElements name total index first room c = .ok p) (settled : Settled x p.2) :
    Settled x c := by
  cases fields with
  | nil =>
    rw [Fields.readElements] at h
    cases h
    exact settled
  | cons _ required k rest =>
    by_cases ended : c.rest = []
    · obtain ⟨f, none⟩ := anotherItem_ended first ended
      rw [Fields.readElements, none] at h
      cases h
    · exact Or.inl ended

mutual

/-- A document in brackets shows its own end, any other one where something follows. -/
theorem Kind.read_mirrors (k : Kind) (room : Nat) {c d : Cursor} (e : Extends x c d) :
    Mirrors (fun p => Settled x p.2 ∨ k.Bracketed p.1) (Alike x) (k.read room c)
      (k.read room d) := by
  match k with
  | .any => exact readValue_mirrors room e
  | .optional k =>
    refine .unbracketed ?_ fun _ => id
    unfold Kind.read
    cases p : c.skipBlanks.peek with
    | none =>
      obtain ⟨f, h⟩ := Kind.read_ended k room (List.head?_eq_none_iff.mp p)
      simp only [p, h]
      exact .error
    | some b =>
      have e := e.skipBlanks (settled_of_peek p)
      simp only [p, e.peek p]
      split
      · exact .word (readIdent_passes [0x75, 0x6C, 0x6C] (e.next p)).always
          (fun _ h => by rw [h]) (fun _ h => by rw [h]) fun _ h => by rw [h]
      · exact .place (g := some) (Kind.read_open k room e) (fun _ h => by rw [h])
          (fun _ _ h => by rw [h]) fun _ _ h => by rw [h]
  | .text s =>
    unfold Kind.read
    exact .blanks e fun b p e =>
      .ite (fun _ => (readString_closed (e.next p)).always) fun _ => .other
  | .flag =>
    unfold Kind.read
    refine .unbracketed (.blanks e fun b p e => .ite (fun _ => ?_) fun _ =>
      .ite (fun _ => ?_) fun _ => .other) fun _ => id
    · exact .word (readIdent_passes [0x72, 0x75, 0x65] (e.next p)).always
        (fun _ h => by rw [h]) (fun _ h => by rw [h]) fun _ h => by rw [h]
    · exact .word (readIdent_passes [0x61, 0x6C, 0x73, 0x65] (e.next p)).always
        (fun _ h => by rw [h]) (fun _ h => by rw [h]) fun _ h => by rw [h]
  | .natural name limit =>
    unfold Kind.read
    exact .unbracketed (.blanks e fun b p e => readConverted_open _ _ e p) fun _ => id
  | .integer =>
    unfold Kind.read
    exact .unbracketed (.blanks e fun b p e => readConverted_open _ _ e p) fun _ => id
  | .dict =>
    unfold Kind.read
    refine .blanks e fun b p e => .ite (fun _ => .room fun room => ?_) fun _ => .other
    have value (c d : Cursor) (e : Extends x c d) :
        Open x (readValue room c) (readValue room d) := readValue_open room e
    exact (readObject_closed (fun name s _ _ e => readEntry_open value name s e) [] e p).always
  | .choice variants =>
    unfold Kind.read
    refine .blanks e fun b p e => .ite (fun _ => ?_) fun _ => .other
    obtain ⟨f, h⟩ | ⟨⟨_, c'⟩, ⟨s, d'⟩, h, h', rfl, e⟩ := (readString_closed (e.next p)).cases
    · rw [h]
      exact .error
    · rw [h, h']
      exact .ite (fun _ => .ok ⟨rfl, e⟩) fun _ => .error
  | .list k =>
    unfold Kind.read
    refine .blanks e fun b p e => .ite (fun _ => .room fun room => ?_) fun _ => .other
    exact (readList_closed (fun _ _ e => Kind.read_open k room e) e p).always
  | .record name fields =>
    unfold Kind.read
    refine .blanks e fun b p e => .ite (fun _ => .room fun room => ?object) fun _ =>
      .ite (fun _ => .room fun room => ?array) fun _ => .other
    case object =>
      have enough : c.skipBlanks.rest.length + 1 ≤ d.skipBlanks.rest.length + 1 :=
        Nat.succ_le_succ e.length_le
      obtain ⟨f, h⟩ | ⟨⟨_, c'⟩, ⟨slots, d'⟩, h, h', rfl, e⟩ :=
        (readFields_closed (fun key slots _ _ e => Fields.readSlot_open fields key slots room e)
          enough true fields.noSlots (e.next p)).cases
      · rw [h]
        exact .error
      · simp only [h, h']
        split
        · exact .error
        · obtain ⟨f, h⟩ | ⟨c', d', h, h', e⟩ := (closeObject_passes e).cases
          · rw [h]
            exact .error
          · rw [h, h']
            exact .ok ⟨rfl, e⟩
    case array =>
      cases h : fields.readElements name fields.count 0 true room c.skipBlanks.next with
      | error f => exact .error
      | ok q =>
        by_cases ended : q.2.rest = []
        · obtain ⟨f, none⟩ := closeList_ended ended
          simp only [none]
          exact .error
        · obtain ⟨⟨_, d'⟩, h', rfl, e⟩ := Fields.readElements_open fields name fields.count 0 true
            room (e.next p) q h (Or.inl ended)
          simp only [h']
          obtain ⟨f, h⟩ | ⟨c', d', h, h', e⟩ := (closeList_passes e).cases
          · rw [h]
            exact .error
          · rw [h, h']
            exact .ok ⟨rfl, e⟩

theorem Kind.read_open (k : Kind) (room : Nat) {c d : Cursor} (e : Extends x c d) :
    Open x (k.read room c) (k.read room d) :=
  (Kind.read_mirrors k room e).strengthen fun _ _ settled => Or.inl settled

theorem Fields.readSlot_open (fields : Fields) (key : String) (slots : fields.Slots) (room : Nat)
    {c d : Cursor} (e : Extends x c d) :
    Open x (fields.readSlot key slots room c) (fields.readSlot key slots room d) := by
  match fields, slots with
  | .nil, () =>
    unfold Fields.readSlot
    obtain ⟨f, h⟩ | ⟨c', d', h, h', e⟩ := (readColon_passes e).cases
    · rw [h]
      exact .error
    · simp only [h, h']
      exact .word (skipValue_open e) (fun _ h => by rw [h]) (fun _ h => by rw [h])
        fun _ h => by rw [h]
  | .cons name _ k rest, (slot, slots) =>
    unfold Fields.readSlot
    refine .ite (fun _ => ?same) fun _ => ?other
    case same =>
      cases slot with
      | some _ => exact .error
      | none =>
        obtain ⟨f, h⟩ | ⟨c', d', h, h', e⟩ := (readColon_passes e).cases
        · simp only [h]
          exact .error
        · simp only [h, h']
          exact .place (g := fun v => (some v, slots)) (Kind.read_open k room e)
            (fun _ h => by rw [h]) (fun _ _ h => by rw [h]) fun _ _ h => by rw [h]
    case other =>
      exact .place (g := fun s => (slot, s)) (Fields.readSlot_open rest key slots room e)
        (fun _ h => by rw [h]) (fun _ _ h => by rw [h]) fun _ _ h => by rw [h]

theorem Fields.readElements_open (fields : Fields) (name : String) (total index : Nat)
    (first : Bool) (room : Nat) {c d : Cursor} (e : Extends x c d) :
    Open x (fields.readElements name total index first room c)
      (fields.readElements name total index first room d) := by
  match fields with
  | .nil => exact .ok ⟨rfl, e⟩
  | .cons _ required k rest =>
    unfold Fields.readElements
    obtain ⟨f, h⟩ | ⟨⟨_, c'⟩, ⟨more, d'⟩, h, h', rfl, e⟩ := (anotherItem_closed first e).cases
    · rw [h]
      exact .error
    · rw [h, h']
      cases more with
      | false =>
        refine .ite (fun _ => .error) fun _ => ?_
        exact .place (g := fun vs => (k.fallback, vs))
          (Fields.readElements_open rest name total (index + 1) first room e)
          (fun _ h => by rw [h]) (fun _ _ h => by rw [h]) fun _ _ h => by rw [h]
      | true =>
        simp only
        cases item : k.read room c' with
        | error f => exact .error
        | ok p =>
          obtain ⟨_, after⟩ := p
          refine .assume (p := Settled x after) ?last fun settled => ?_
          case last =>
            intro a eq settled
            simp only at eq
            split at eq
            · rename_i read
              cases eq
              exact readElements_settled read settled
            · cases eq
          obtain ⟨⟨v, d'⟩, item', rfl, e⟩ := Kind.read_open k room e _ item settled
          simp only [item']
          exact .place (g := fun vs => (v, vs))
            (Fields.readElements_open rest name total (index + 1) false room e)
            (fun _ h => by simp only [h]) (fun _ _ h => by simp only [h])
            fun _ _ h => by simp only [h]

end

end NotebookKernel.Json
