import NotebookKernel.Proofs.Printing

/-!
# Documents as they are printed

A document of a kind is read back from its printed form. Read as a value, the same text gives
the value of the document, and that value is converted back. The fields of a record are followed
through the slots that hold them while they are read.
-/

namespace NotebookKernel.Json

open Cursor

variable {c : Cursor} {rest : Bytes}

/-! ## What is asked of a document -/

/-- A kind whose documents are never the word for nothing. -/
def Kind.Definite : Kind → Prop
  | .any => False
  | .optional _ => False
  | _ => True

def Fields.names : Fields → List String
  | .nil => []
  | .cons name _ _ rest => name :: rest.names

mutual

/-- Numbers are within their limits, names among those there are, and no two fields of a record
have one name. -/
def Kind.Proper : (k : Kind) → k.Carrier → Prop
  | .text _, _ => True
  | .flag, _ => True
  | .natural _ limit, (n : Nat) => n ≤ limit ∧ n < 0x10000000000000000
  | .integer, (i : Int) => -0x8000000000000000 ≤ i ∧ i < 0x8000000000000000
  | .any, _ => True
  | .dict, _ => True
  | .choice variants, (s : String) => variants.contains s = true
  | .optional k, o =>
      match o with
      | none => True
      | some a => k.Definite ∧ k.Proper a
  | .list k, items => ∀ a ∈ items, k.Proper a
  | .record _ fields, vs => fields.names.Nodup ∧ fields.Proper vs

def Fields.Proper : (fields : Fields) → fields.Carrier → Prop
  | .nil, () => True
  | .cons _ _ k rest, (v, vs) => k.Proper v ∧ rest.Proper vs

end

/-- A value that can be read where so many brackets may be opened. -/
structure Value.Readable (v : Value) (room : Nat) : Prop where
  ordered : v.Ordered
  integral : v.Integral
  fits : v.depth ≤ room

mutual

/-- There is room for all brackets, and the values within can be read. -/
def Kind.Readable : (k : Kind) → Nat → k.Carrier → Prop
  | .any, room, (v : Value) => v.Readable room
  | .dict, room, (d : Dict) => (Value.fields d).Readable room
  | .optional k, room, o =>
      match o with
      | none => True
      | some a => k.Readable room a
  | .list k, room, items => 0 < room ∧ ∀ a ∈ items, k.Readable (room - 1) a
  | .record _ fields, room, vs => 0 < room ∧ fields.Readable (room - 1) vs
  | _, _, _ => True

def Fields.Readable : (fields : Fields) → Nat → fields.Carrier → Prop
  | .nil, _, () => True
  | .cons _ _ k rest, room, (v, vs) => k.Readable room v ∧ rest.Readable room vs

end

/-! ## Numbers, words and strings -/

theorem ReadsNumber.first {n : Number} (number : ReadsNumber c n rest) :
    ∃ b, c.peek = some b ∧ (b = 0x2D ∨ isDigit b = true) := by
  rcases number with ⟨p, _⟩ | ⟨b, p, _, digit, _⟩
  · exact ⟨0x2D, p, Or.inl rfl⟩
  · exact ⟨b, p, Or.inr digit⟩

/-- A printed whole number begins with a digit or a sign. -/
theorem renderInt_first (w : Whole) : ∃ b more, Utf8.encode (renderInt w.val) = b :: more ∧
    (b = 0x2D ∨ isDigit b = true) := by
  have text : (Cursor.start (Utf8.encode (renderInt w.val))).rest =
    Utf8.encode (renderInt w.val) ++ [] := (List.append_nil _).symm
  obtain ⟨b, p, first⟩ := (readNumber_written w text stops_nil).first
  obtain ⟨more, text⟩ := rest_of_peek p
  exact ⟨b, more, text, first⟩

theorem not_blank_of_number {b : UInt8} (first : b = 0x2D ∨ isDigit b = true) :
    isJsonBlank b = false := by
  rcases first with rfl | digit
  · rfl
  · exact not_blank_of_isDigit digit

theorem ne_of_number {a b : UInt8} (first : b = 0x2D ∨ isDigit b = true) (minus : a ≠ 0x2D)
    (digit : isDigit a = false) : b ≠ a := by
  rcases first with rfl | h
  · exact minus.symm
  · exact ne_of_isDigit h digit

theorem begins_renderInt (w : Whole) : Begins (Utf8.encode (renderInt w.val)) := by
  obtain ⟨b, more, text, first⟩ := renderInt_first w
  exact ⟨b, more, text, not_blank_of_number first, ne_of_number first (by decide) rfl⟩

theorem begins_renderString (s : String) : Begins (Utf8.encode (renderString s)) := by
  rw [encode_renderString]
  exact ⟨_, _, rfl, rfl, by decide⟩

section Scalars

variable {room : Nat}

theorem Kind.text_written (s a : String) :
    Written ((Kind.text s).read room) a (Utf8.encode (renderString a)) := by
  refine ⟨begins_renderString a, ?_⟩
  intro c rest text stops
  simp only [encode_renderString, List.cons_append, List.append_assoc] at text
  have peek := peek_cons text
  unfold Kind.read
  simp only [skipBlanks_of_peek peek rfl, peek, if_pos]
  exact readString_written a (next_cons text)

theorem Kind.choice_written {variants : List String} {a : String}
    (known : variants.contains a = true) :
    Written ((Kind.choice variants).read room) a (Utf8.encode (renderString a)) := by
  refine ⟨begins_renderString a, ?_⟩
  intro c rest text stops
  simp only [encode_renderString, List.cons_append, List.append_assoc] at text
  have peek := peek_cons text
  obtain ⟨c', read, left⟩ := readString_written a (next_cons text)
  refine ⟨c', ?_, left⟩
  unfold Kind.read
  simp only [skipBlanks_of_peek peek rfl, peek, if_pos, read, known]

theorem Kind.flag_written (b : Bool) :
    Written (Kind.flag.read room) b (Utf8.encode (Value.bool b).render) := by
  refine ⟨Value.begins_render (.bool b) trivial, ?_⟩
  intro c rest text stops
  cases b with
  | true =>
    have peek : c.peek = some 0x74 := peek_cons text
    obtain ⟨c', read, left⟩ := readIdent_word [0x72, 0x75, 0x65] (next_cons text)
    refine ⟨c', ?_, left⟩
    unfold Kind.read
    simp only [skipBlanks_of_peek peek rfl, peek, if_pos, read]
  | false =>
    have peek : c.peek = some 0x66 := peek_cons text
    obtain ⟨c', read, left⟩ := readIdent_word [0x61, 0x6C, 0x73, 0x65] (next_cons text)
    refine ⟨c', ?_, left⟩
    unfold Kind.read
    simp [skipBlanks_of_peek peek rfl, peek, read]

/-- A number is converted where it was printed. -/
theorem readConverted_written {α : Type} {convert : Number → Except Mismatch α} (wanted : String)
    {w : Whole} {a : α} (meant : convert (.whole w) = .ok a)
    (text : c.rest = Utf8.encode (renderInt w.val) ++ rest) (stops : Stops rest) :
    ∃ b, c.peek = some b ∧ c.skipBlanks = c ∧ Yields (readConverted convert wanted b c) a rest := by
  have number := readNumber_written w text stops
  obtain ⟨b, peek, first⟩ := number.first
  refine ⟨b, peek, skipBlanks_of_peek peek (not_blank_of_number first), ?_⟩
  rcases number with ⟨p, c', read, left⟩ | ⟨b', p, minus, digit, c', read, left⟩
  · cases p.symm.trans peek
    exact ⟨c', by simp [readConverted, read, meant], left⟩
  · cases p.symm.trans peek
    exact ⟨c', by simp [readConverted, minus, digit, read, meant], left⟩

theorem Kind.natural_written {name : String} {limit n : Nat} (within : n ≤ limit)
    (small : n < 0x10000000000000000) :
    Written ((Kind.natural name limit).read room) n (Utf8.encode (renderInt n)) := by
  have lower : -0x8000000000000000 ≤ (n : Int) := by omega
  have upper : (n : Int) < 0x10000000000000000 := by omega
  let w : Whole := ⟨n, lower, upper⟩
  refine ⟨begins_renderInt w, ?_⟩
  intro c rest text stops
  have meant : naturalOf name limit (.whole w) = .ok n := by simp [naturalOf, w, within]
  obtain ⟨b, peek, blanks, yields⟩ := readConverted_written name meant text stops
  unfold Kind.read
  simpa only [blanks, peek] using yields

theorem Kind.integer_written {i : Int} (lower : -0x8000000000000000 ≤ i)
    (upper : i < 0x8000000000000000) :
    Written (Kind.integer.read room) i (Utf8.encode (renderInt i)) := by
  let w : Whole := ⟨i, lower, by omega⟩
  refine ⟨begins_renderInt w, ?_⟩
  intro c rest text stops
  have meant : integerOf (.whole w) = .ok i := by simp [integerOf, w, upper]
  obtain ⟨b, peek, blanks, yields⟩ :=
    readConverted_written Kind.integer.wanted meant text stops
  unfold Kind.read
  simpa only [blanks, peek] using yields

theorem Kind.any_written {v : Value} (readable : v.Readable room) :
    Written (Kind.any.read room) v (Utf8.encode v.render) := by
  obtain ⟨begins, yields⟩ := v.written readable.ordered readable.integral readable.fits
  refine ⟨begins, ?_⟩
  intro c rest text stops
  unfold Kind.read
  exact yields text stops

theorem Kind.dict_written {d : Dict} (readable : (Value.fields d).Readable room) :
    Written (Kind.dict.read room) d (Utf8.encode (Value.fields d).render) := by
  refine ⟨Value.begins_render _ readable.integral, ?_⟩
  intro c rest text stops
  obtain ⟨ordered, integral, fits⟩ := readable
  cases room with
  | zero => cases fits
  | succ room =>
    have entries := Value.written_entries d ordered.1 ordered.2 integral
      (Nat.le_of_succ_le_succ fits) [] nofun
    simp only [Value.encode_fields, List.cons_append, List.append_assoc] at text
    have peek := peek_cons text
    unfold Kind.read
    simp only [skipBlanks_of_peek peek rfl, peek, if_pos, withRoom]
    exact readObject_written entries text

end Scalars

/-! ## Options and lists -/

section Parts

variable {k : Kind} {room : Nat}

theorem Kind.none_written :
    Written ((Kind.optional k).read room) none (Utf8.encode Value.null.render) := by
  refine ⟨Value.begins_render .null trivial, ?_⟩
  intro c rest text stops
  have peek : c.peek = some 0x6E := peek_cons text
  obtain ⟨c', read, left⟩ := readIdent_word [0x75, 0x6C, 0x6C] (next_cons text)
  refine ⟨c', ?_, left⟩
  unfold Kind.read
  simp only [skipBlanks_of_peek peek rfl, peek, read]

theorem Kind.some_written {a : k.Carrier} {bs : Bytes} (written : Written (k.read room) a bs)
    (definite : bs.head? ≠ some 0x6E) : Written ((Kind.optional k).read room) (some a) bs := by
  obtain ⟨⟨b, more, rfl, blank, bracket⟩, yields⟩ := written
  refine ⟨⟨b, more, rfl, blank, bracket⟩, ?_⟩
  intro c rest text stops
  obtain ⟨c', read, left⟩ := yields text stops
  have peek := peek_cons text
  refine ⟨c', ?_, left⟩
  have other : b ≠ 0x6E := by simpa using definite
  unfold Kind.read
  simp only [skipBlanks_of_peek peek blank, peek]
  split
  · rename_i h
    exact absurd (Option.some.inj h) other
  · rw [read]

theorem encode_separated (ts : List (List Char)) :
    Utf8.encode (separated ts) = joined (ts.map Utf8.encode) := by
  match ts with
  | [] => rfl
  | [t] => simp [separated, joined, commas]
  | t :: u :: ts =>
    rw [separated, Utf8.encode_append, Utf8.encode_cons, encode_separated (u :: ts)]
    · rfl
    · simp

/-- The text of a list: its items between commas. -/
theorem Kind.encode_list (items : List k.Carrier) : Utf8.encode ((Kind.list k).render items) =
    0x5B :: (joined (items.map fun a => Utf8.encode (k.render a)) ++ [0x5D]) := by
  rw [Kind.render, Utf8.encode_cons, Utf8.encode_append, encode_separated, List.map_map]
  rfl

theorem Kind.list_written {items : List k.Carrier}
    (written : ∀ a ∈ items, Written (k.read room) a (Utf8.encode (k.render a))) :
    Written ((Kind.list k).read (room + 1)) items
      (Utf8.encode ((Kind.list k).render items)) := by
  rw [Kind.encode_list]
  refine ⟨⟨_, _, rfl, rfl, by decide⟩, ?_⟩
  intro c rest text stops
  simp only [List.cons_append, List.append_assoc] at text
  have peek := peek_cons text
  have all : List.Forall₂ (Written (k.read room)) items
      (items.map fun a => Utf8.encode (k.render a)) :=
    List.forall₂_map_right_iff.mpr (List.forall₂_same.mpr written)
  unfold Kind.read
  simp only [skipBlanks_of_peek peek rfl, peek, if_pos, withRoom]
  exact readList_written all text

end Parts

/-! ## Records -/

namespace Fields

/-- The slots when the fields of some names have been read. -/
def filled : (fields : Fields) → fields.Carrier → List String → fields.Slots
  | .nil, (), _ => ()
  | .cons name _ _ rest, (v, vs), read =>
      (if name ∈ read then some v else none, rest.filled vs read)

/-- The texts of the fields, by their names. -/
def texts : (fields : Fields) → fields.Carrier → List (String × Bytes)
  | .nil, () => []
  | .cons name _ k rest, (v, vs) => (name, Utf8.encode (k.render v)) :: rest.texts vs

theorem texts_names : (fields : Fields) → (vs : fields.Carrier) →
    (fields.texts vs).map Prod.fst = fields.names
  | .nil, () => rfl
  | .cons name _ _ rest, (_, vs) => congrArg (name :: ·) (rest.texts_names vs)

theorem toEntries_names : (fields : Fields) → (vs : fields.Carrier) →
    (fields.toEntries vs).map Prod.fst = fields.names
  | .nil, () => rfl
  | .cons name _ _ rest, (_, vs) => congrArg (name :: ·) (rest.toEntries_names vs)

theorem encode_renderEntries : (fields : Fields) → (vs : fields.Carrier) →
    (fields.renderEntries vs).map Utf8.encode = (fields.texts vs).map fieldText
  | .nil, () => rfl
  | .cons name _ k rest, (v, vs) => by
    simp only [renderEntries, texts, List.map_cons, fieldText, Utf8.encode_append,
      Utf8.encode_cons, rest.encode_renderEntries vs]
    rfl

/-- The text of a record: its fields between commas. -/
theorem encode_record (name : String) (fields : Fields) (vs : fields.Carrier) :
    Utf8.encode ((Kind.record name fields).render vs) =
      0x7B :: (joined ((fields.texts vs).map fieldText) ++ [0x7D]) := by
  rw [Kind.render, Utf8.encode_cons, Utf8.encode_append, encode_separated, encode_renderEntries]
  rfl

theorem filled_none : (fields : Fields) → (vs : fields.Carrier) →
    fields.filled vs [] = fields.noSlots
  | .nil, () => rfl
  | .cons _ _ _ rest, (_, vs) => congrArg (none, ·) (rest.filled_none vs)

/-- The name of another record's field fills no slot. -/
theorem filled_other : (fields : Fields) → (vs : fields.Carrier) → {name : String} →
    (other : name ∉ fields.names) → (read : List String) →
    fields.filled vs (name :: read) = fields.filled vs read
  | .nil, (), _, _, _ => rfl
  | .cons n _ _ rest, (v, vs), name, other, read => by
    obtain ⟨different, others⟩ := not_or.mp (mt List.mem_cons.mpr other)
    simp only [filled, rest.filled_other vs others read, List.mem_cons, Ne.symm different, false_or]

theorem complete_filled : (fields : Fields) → (vs : fields.Carrier) → (read : List String) →
    (all : ∀ name ∈ fields.names, name ∈ read) → fields.complete (fields.filled vs read) = .ok vs
  | .nil, (), _, _ => rfl
  | .cons name _ _ rest, (_, vs), read, all => by
    have others := rest.complete_filled vs read fun name member =>
      all name (List.mem_cons_of_mem _ member)
    simp only [complete, filled, if_pos (all name List.mem_cons_self), others]

end Fields

/-- Every field that is printed is read into its own slot. -/
def Fields.SlotsWritten (fields : Fields) (vs : fields.Carrier) (room : Nat) : Prop :=
  ∀ {name : String} {bs : Bytes} {read : List String} {c : Cursor} {rest : Bytes},
    (name, bs) ∈ fields.texts vs → name ∉ read → c.rest = 0x3A :: (bs ++ rest) → Stops rest →
      Yields (fields.readSlot name (fields.filled vs read) room c) (fields.filled vs (name :: read))
        rest

theorem Fields.SlotsWritten.all {fields : Fields} {vs : fields.Carrier} {room : Nat}
    (slots : fields.SlotsWritten vs room) {es : List (String × Bytes)}
    (part : ∀ e ∈ es, e ∈ fields.texts vs) (different : (es.map Prod.fst).Nodup)
    (read : List String) (fresh : ∀ e ∈ es, e.1 ∉ read) :
    FieldsWritten (fun key slots c => fields.readSlot key slots room c) (fields.filled vs read) es
      (fields.filled vs ((es.map Prod.fst).reverse ++ read)) := by
  induction es generalizing read with
  | nil => exact .done _
  | cons e es ih =>
    obtain ⟨name, bs⟩ := e
    obtain ⟨new, different⟩ := List.nodup_cons.mp different
    have first := part _ List.mem_cons_self
    have unread := fresh _ List.mem_cons_self
    refine .field (slots first unread) ?_
    have others := ih (fun e member => part e (List.mem_cons_of_mem _ member)) different
      (name :: read) ?_
    · simpa using others
    · intro e member again
      rcases List.mem_cons.mp again with same | again
      · exact new (List.mem_map.mpr ⟨e, member, same⟩)
      · exact fresh e (List.mem_cons_of_mem _ member) again

theorem Kind.record_written (name : String) {fields : Fields} {vs : fields.Carrier} {room : Nat}
    (different : fields.names.Nodup) (slots : fields.SlotsWritten vs room) :
    Written ((Kind.record name fields).read (room + 1)) vs
      (Utf8.encode ((Kind.record name fields).render vs)) := by
  rw [Fields.encode_record]
  refine ⟨⟨_, _, rfl, rfl, by decide⟩, ?_⟩
  intro c rest text stops
  simp only [List.cons_append, List.append_assoc] at text
  have peek := peek_cons text
  have all := slots.all (fun _ member => member) (fields.texts_names vs ▸ different) [] (by simp)
  rw [fields.filled_none, List.append_nil] at all
  obtain ⟨c₁, read, text₁⟩ := readFields_object all text
  obtain ⟨c₂, close, left⟩ := closeObject_end text₁
  have complete := fields.complete_filled vs ((fields.texts vs).map Prod.fst).reverse
    fun n member => List.mem_reverse.mpr (fields.texts_names vs ▸ member)
  refine ⟨c₂, ?_, left⟩
  unfold Kind.read
  simp only [skipBlanks_of_peek peek rfl, peek, if_pos, withRoom, read, complete, close]

/-- A document that is not the word for nothing does not begin like it. -/
theorem Kind.definite_render {k : Kind} {a : k.Carrier} (definite : k.Definite)
    (proper : k.Proper a) : (Utf8.encode (k.render a)).head? ≠ some 0x6E := by
  have number (w : Whole) : (Utf8.encode (renderInt w.val)).head? ≠ some 0x6E := by
    obtain ⟨b, more, text, first⟩ := renderInt_first w
    rw [text]
    exact fun h => ne_of_number first (by decide) rfl (Option.some.inj h)
  cases k with
  | text s =>
    unfold Kind.render
    rw [encode_renderString]
    exact nofun
  | flag =>
    cases a with
    | true => exact nofun
    | false => exact nofun
  | natural name limit =>
    obtain ⟨within, small⟩ := proper
    have lower : -0x8000000000000000 ≤ (a : Int) := by omega
    have upper : (a : Int) < 0x10000000000000000 := by omega
    exact number ⟨a, lower, upper⟩
  | integer =>
    obtain ⟨lower, upper⟩ := proper
    exact number ⟨a, lower, Int.lt_trans upper (by decide)⟩
  | any => cases definite
  | dict =>
    unfold Kind.render
    rw [Value.encode_fields]
    exact nofun
  | choice variants =>
    unfold Kind.render
    rw [encode_renderString]
    exact nofun
  | optional k => cases definite
  | list k =>
    unfold Kind.render
    exact nofun
  | record name fields =>
    rw [Fields.encode_record]
    exact nofun

mutual

/-- A printed document is read back, if it can be read. -/
theorem Kind.written (k : Kind) (a : k.Carrier) {room : Nat} (proper : k.Proper a)
    (readable : k.Readable room a) : Written (k.read room) a (Utf8.encode (k.render a)) := by
  match k, a with
  | .text s, a => exact Kind.text_written s a
  | .flag, b => exact Kind.flag_written b
  | .natural name limit, n => exact Kind.natural_written proper.1 proper.2
  | .integer, i => exact Kind.integer_written proper.1 proper.2
  | .any, v => exact Kind.any_written readable
  | .dict, d => exact Kind.dict_written readable
  | .choice variants, s => exact Kind.choice_written proper
  | .optional k, none => exact Kind.none_written
  | .optional k, some a =>
    have definite : (Utf8.encode (k.render a)).head? ≠ some 0x6E :=
      Kind.definite_render proper.1 proper.2
    exact Kind.some_written (k.written a proper.2 readable) definite
  | .list k, items =>
    cases room with
    | zero => exact absurd readable.1 (Nat.lt_irrefl 0)
    | succ room =>
      exact Kind.list_written fun a member =>
        k.written a (proper a member) (readable.2 a member)
  | .record name fields, vs =>
    cases room with
    | zero => exact absurd readable.1 (Nat.lt_irrefl 0)
    | succ room =>
      exact Kind.record_written name proper.1 fun member fresh text stops =>
        fields.readSlot_written vs proper.1 proper.2 readable.2 member fresh text stops

/-- A printed field is read back into its slot. -/
theorem Fields.readSlot_written (fields : Fields) (vs : fields.Carrier) {room : Nat}
    (different : fields.names.Nodup) (proper : fields.Proper vs)
    (readable : fields.Readable room vs)
    {name : String} {bs : Bytes} (member : (name, bs) ∈ fields.texts vs) {read : List String}
    (fresh : name ∉ read) {c : Cursor} {rest : Bytes} (text : c.rest = 0x3A :: (bs ++ rest))
    (stops : Stops rest) : Yields (fields.readSlot name (fields.filled vs read) room c)
      (fields.filled vs (name :: read)) rest := by
  match fields, vs with
  | .nil, () => cases member
  | .cons n required k others, (v, vs) =>
    obtain ⟨new, different⟩ := List.nodup_cons.mp different
    rcases List.mem_cons.mp member with same | later
    · cases same
      obtain ⟨c₁, colon, text₁⟩ := readColon_colon text
      obtain ⟨c₂, value, left⟩ := (k.written v proper.1 readable.1).yields text₁ stops
      refine ⟨c₂, ?_, left⟩
      simp only [Fields.readSlot, Fields.filled, if_pos, if_neg fresh, colon, value,
        List.mem_cons_self, others.filled_other vs new]
    · have elsewhere : name ≠ n := by
        rintro rfl
        have known : name ∈ (others.texts vs).map Prod.fst :=
          List.mem_map.mpr ⟨(name, bs), later, rfl⟩
        rw [others.texts_names vs] at known
        exact new known
      obtain ⟨c', slot, left⟩ :=
        others.readSlot_written vs different proper.2 readable.2 later fresh text stops
      refine ⟨c', ?_, left⟩
      simp only [Fields.readSlot, Fields.filled, if_neg elsewhere, slot, List.mem_cons,
        elsewhere.symm, false_or]

end

/-! ## Whole texts -/

theorem finish_eq_ok {α : Type} {r : Except Fault (α × Cursor)} {a : α} (h : finish r = .ok a) :
    ∃ c, r = .ok (a, c) ∧ c.skipBlanks.rest = [] := by
  cases r with
  | error f => cases h
  | ok p =>
    obtain ⟨b, c⟩ := p
    simp only [finish] at h
    split at h
    · cases h
      exact ⟨c, rfl, List.head?_eq_none_iff.mp ‹_›⟩
    · cases h

theorem stops_blank (blank : rest.dropWhile isJsonBlank = []) : Stops rest := by
  intro b member
  cases rest with
  | nil => cases member
  | cons a rest =>
    cases member
    have first : isJsonBlank b = true := by
      by_contra other
      rw [List.dropWhile_cons, if_neg other] at blank
      cases blank
    simp only [isJsonBlank, Bool.or_eq_true, beq_iff_eq] at first
    rcases first with ((rfl | rfl) | rfl) | rfl
    all_goals decide

/-- A text is read back if nothing but blanks follows. -/
theorem Written.finish_blank {α : Type} {read : Cursor → Except Fault (α × Cursor)} {a : α}
    {bs blanks : Bytes} (written : Written read a bs) (blank : blanks.dropWhile isJsonBlank = []) :
    finish (read (.start (bs ++ blanks))) = .ok a := by
  obtain ⟨c, h, left⟩ := written.yields (c := .start (bs ++ blanks)) rfl (stops_blank blank)
  have none : c.skipBlanks.peek = none := by
    rw [Cursor.peek, skipBlanks_rest, left, blank]
    rfl
  simp only [h, finish, none]

theorem Written.finish {α : Type} {read : Cursor → Except Fault (α × Cursor)} {a : α} {bs : Bytes}
    (written : Written read a bs) : finish (read (.start bs)) = .ok a := by
  have none : ([] : Bytes).dropWhile isJsonBlank = [] := rfl
  simpa using written.finish_blank none

end NotebookKernel.Json
