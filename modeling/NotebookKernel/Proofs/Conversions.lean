import NotebookKernel.Proofs.Documents

/-!
# Documents and their values

A printed document that is read without its kind gives its value, and the value of a document is
converted back to the document. The fields of an object may come in any order, so each one is
followed to its own slot.
-/

namespace NotebookKernel.Json

open Cursor

variable {c : Cursor} {rest : Bytes}

/-! ## Objects of given fields -/

namespace Dict

theorem mem_ofList {entries : List (String × Value)} {e : String × Value}
    (member : e ∈ ofList entries) : e ∈ entries := by
  suffices all : ∀ (es : List (String × Value)) (d : Dict),
      e ∈ es.foldl (fun d e => insert e.1 e.2 d) d → e ∈ es ∨ e ∈ d by
    simpa using all entries [] member
  intro es
  induction es with
  | nil => exact fun d member => Or.inr member
  | cons f es ih =>
    intro d member
    rcases ih _ member with later | now
    · exact Or.inl (List.mem_cons_of_mem _ later)
    · rcases mem_insert now with rfl | before
      · exact Or.inl List.mem_cons_self
      · exact Or.inr before

/-- Inserting a field adds its name and keeps the names that are there. -/
theorem name_mem_insert {name n : String} {v : Value} {d : Dict}
    (known : n = name ∨ n ∈ d.map Prod.fst) : n ∈ (d.insert name v).map Prod.fst := by
  induction d with
  | nil => simpa [insert] using known
  | cons e d ih =>
    obtain ⟨m, w⟩ := e
    rw [insert]
    split
    · simpa using known
    · split
      · rename_i same
        subst same
        simpa using known
      · simp only [List.map_cons, List.mem_cons] at known ⊢
        rcases known with new | rfl | old
        · exact Or.inr (ih (Or.inl new))
        · exact Or.inl rfl
        · exact Or.inr (ih (Or.inr old))

theorem name_mem_ofList {entries : List (String × Value)} {n : String}
    (member : n ∈ entries.map Prod.fst) : n ∈ (ofList entries).map Prod.fst := by
  suffices all : ∀ (es : List (String × Value)) (d : Dict),
      (n ∈ es.map Prod.fst ∨ n ∈ d.map Prod.fst) →
        n ∈ (es.foldl (fun d e => insert e.1 e.2 d) d).map Prod.fst from
    all entries [] (Or.inl member)
  intro es
  induction es with
  | nil =>
    rintro d (none | member)
    · cases none
    · exact member
  | cons f es ih =>
    rintro d (member | member)
    · rcases List.mem_cons.mp member with now | later
      · exact ih _ (Or.inr (name_mem_insert (Or.inl now)))
      · exact ih _ (Or.inl later)
    · exact ih _ (Or.inr (name_mem_insert (Or.inr member)))

/-- A field that was put in its place is found there, and the others are where they were. -/
theorem get?_insert (n m : String) (v : Value) (d : Dict) :
    get? n (insert m v d) = if m = n then some v else get? n d := by
  induction d with
  | nil => rfl
  | cons e rest ih =>
    obtain ⟨k, w⟩ := e
    simp only [insert]
    split
    · rfl
    · split
      · rename_i same
        subst same
        by_cases h : m = n
        · simp [get?, h]
        · simp [get?, h]
      · rename_i differs
        by_cases h : k = n
        · subst h
          simp [get?, differs]
        · simp [get?, h, ih]

end Dict

/-! ## Reading a document as a value -/

theorem ofInt_of_range {i : Int} (lower : -0x8000000000000000 ≤ i)
    (upper : i < 0x10000000000000000) : Whole.ofInt i = ⟨i, lower, upper⟩ := by
  rw [Whole.ofInt, Whole.ofInt?, dif_pos ⟨lower, upper⟩]

theorem int_written {i : Int} (lower : -0x8000000000000000 ≤ i)
    (upper : i < 0x10000000000000000) (room : Nat) :
    Written (readValue room) (Value.int i) (Utf8.encode (renderInt i)) := by
  rw [Value.int, ofInt_of_range lower upper]
  exact Value.written (.number (.whole ⟨i, lower, upper⟩)) trivial trivial (Nat.zero_le room)

theorem string_written (s : String) (room : Nat) :
    Written (readValue room) (Value.string s) (Utf8.encode (renderString s)) :=
  Value.written (.string s) trivial trivial (Nat.zero_le room)

theorem record_value_written {name : String} {fields : Fields} {vs : fields.Carrier} {room : Nat}
    (entries : FieldsWritten (readEntry (readValue room)) [] (fields.texts vs)
      (Dict.ofList (fields.toEntries vs))) :
    Written (readValue (room + 1)) ((Kind.record name fields).toValue vs)
      (Utf8.encode ((Kind.record name fields).render vs)) := by
  rw [Fields.encode_record]
  refine ⟨⟨_, _, rfl, rfl, by decide⟩, ?_⟩
  intro c rest text stops
  simp only [List.cons_append, List.append_assoc] at text
  rw [readValue_object (peek_cons text)]
  exact (readObject_written entries text).map Value.fields

theorem list_value_written {k : Kind} {items : List k.Carrier} {room : Nat}
    (written : ∀ a ∈ items, Written (readValue room) (k.toValue a) (Utf8.encode (k.render a))) :
    Written (readValue (room + 1)) ((Kind.list k).toValue items)
      (Utf8.encode ((Kind.list k).render items)) := by
  rw [Kind.encode_list]
  refine ⟨⟨_, _, rfl, rfl, by decide⟩, ?_⟩
  intro c rest text stops
  simp only [List.cons_append, List.append_assoc] at text
  have all : List.Forall₂ (Written (readValue room)) (items.map fun a => k.toValue a)
      (items.map fun a => Utf8.encode (k.render a)) := by
    rw [List.forall₂_map_left_iff, List.forall₂_map_right_iff]
    exact List.forall₂_same.mpr written
  rw [readValue_array (peek_cons text)]
  exact (readList_written all text).map Value.array

mutual

/-- A printed document that is read as a value gives the value of the document. -/
theorem Kind.value_written (k : Kind) (a : k.Carrier) {room : Nat} (proper : k.Proper a)
    (readable : k.Readable room a) :
    Written (readValue room) (k.toValue a) (Utf8.encode (k.render a)) := by
  match k, a with
  | .text _, s => exact string_written s room
  | .flag, b => exact Value.written (.bool b) trivial trivial (Nat.zero_le room)
  | .natural name limit, n =>
    obtain ⟨within, small⟩ := proper
    have lower : -0x8000000000000000 ≤ (n : Int) := by omega
    have upper : (n : Int) < 0x10000000000000000 := by omega
    exact int_written lower upper room
  | .integer, i =>
    obtain ⟨lower, upper⟩ := proper
    exact int_written lower (Int.lt_trans upper (by decide)) room
  | .any, v => exact v.written readable.ordered readable.integral readable.fits
  | .dict, d => exact (Value.fields d).written readable.ordered readable.integral readable.fits
  | .choice _, s => exact string_written s room
  | .optional k, none => exact Value.null.written trivial trivial (Nat.zero_le room)
  | .optional k, some a => exact k.value_written a proper.2 readable
  | .list k, items =>
    cases room with
    | zero => exact absurd readable.1 (Nat.lt_irrefl 0)
    | succ room =>
      exact list_value_written fun a member =>
        k.value_written a (proper a member) (readable.2 a member)
  | .record name fields, vs =>
    cases room with
    | zero => exact absurd readable.1 (Nat.lt_irrefl 0)
    | succ room =>
      exact record_value_written (fields.entries_written vs proper.2 readable.2 [])

theorem Fields.entries_written (fields : Fields) (vs : fields.Carrier) {room : Nat}
    (proper : fields.Proper vs) (readable : fields.Readable room vs) (d : Dict) :
    FieldsWritten (readEntry (readValue room)) d (fields.texts vs)
      ((fields.toEntries vs).foldl (fun d e => d.insert e.1 e.2) d) := by
  match fields, vs with
  | .nil, () => exact .done d
  | .cons name _ k others, (v, vs) =>
    have value := k.value_written v proper.1 readable.1
    refine .field (fun text stops => readEntry_written value name d text stops) ?_
    exact others.entries_written vs proper.2 readable.2 (d.insert name (k.toValue v))

end

/-! ## Converting the value of a document -/

theorem of_map_ok {ε α β : Type} {x : Except ε α} {f : α → β} {b : β} (h : x.map f = .ok b) :
    ∃ a, x = .ok a ∧ f a = b := by
  cases x with
  | error e => cases h
  | ok a =>
    cases h
    exact ⟨a, rfl, rfl⟩

theorem Kind.toValue_ne_null {k : Kind} (a : k.Carrier) (definite : k.Definite) :
    k.toValue a ≠ .null := by
  cases k with
  | any => cases definite
  | optional k => cases definite
  | _ => exact nofun

theorem convertAll_map {α : Type} {convert : Value → Except Mismatch α} {toValue : α → Value}
    {items : List α} (back : ∀ a ∈ items, convert (toValue a) = .ok a) :
    convertAll convert (items.map toValue) = .ok items := by
  induction items with
  | nil => rfl
  | cons a items ih =>
    have first := back a List.mem_cons_self
    have others := ih fun a member => back a (List.mem_cons_of_mem _ member)
    simp only [List.map_cons, convertAll, first, others]

/-- Every entry is converted into its own slot, or into none. -/
def Fields.SlotsConverted (fields : Fields) (vs : fields.Carrier) (d : Dict) : Prop :=
  ∀ {name : String} {v : Value}, (name, v) ∈ d → ∀ read : List String,
    fields.fill name v (fields.filled vs read) = .ok (fields.filled vs (name :: read))

theorem Fields.SlotsConverted.all {fields : Fields} {vs : fields.Carrier} {d : Dict}
    (slots : fields.SlotsConverted vs d) (read : List String) :
    fillSlots (fun key v slots => fields.fill key v slots) d (fields.filled vs read) =
      .ok (fields.filled vs ((d.map Prod.fst).reverse ++ read)) := by
  induction d generalizing read with
  | nil => rfl
  | cons e d ih =>
    have first : fields.fill e.1 e.2 (fields.filled vs read) = _ := slots List.mem_cons_self read
    have others := ih (fun member => slots (List.mem_cons_of_mem _ member)) (e.1 :: read)
    simp only [fillSlots, first, others]
    simp

/-- An object in which every field of a record stands is converted to the record. -/
theorem Kind.convert_fields {name : String} {fields : Fields} {vs : fields.Carrier} {d : Dict}
    (slots : fields.SlotsConverted vs d) (covered : ∀ n ∈ fields.names, n ∈ d.map Prod.fst) :
    (Kind.record name fields).convert (.fields d) = .ok vs := by
  have all := slots.all []
  rw [fields.filled_none, List.append_nil] at all
  simp only [Kind.convert, all]
  exact fields.complete_filled vs _ fun n member => List.mem_reverse.mpr (covered n member)

theorem Kind.convert_record {name : String} {fields : Fields} {vs : fields.Carrier}
    (slots : fields.SlotsConverted vs (fields.toEntries vs)) :
    (Kind.record name fields).convert ((Kind.record name fields).toValue vs) = .ok vs := by
  refine Kind.convert_fields (fun member => slots (Dict.mem_ofList member)) ?_
  intro n member
  rw [← fields.toEntries_names vs] at member
  exact Dict.name_mem_ofList member

mutual

/-- The value of a document is converted back to the document. -/
theorem Kind.convert_toValue (k : Kind) (a : k.Carrier) (proper : k.Proper a) :
    k.convert (k.toValue a) = .ok a := by
  match k, a with
  | .text _, s => rfl
  | .flag, b => rfl
  | .natural name limit, n =>
    obtain ⟨within, small⟩ := proper
    have lower : -0x8000000000000000 ≤ (n : Int) := by omega
    have upper : (n : Int) < 0x10000000000000000 := by omega
    simp only [Kind.toValue, Kind.convert, Value.nat, Value.int, ofInt_of_range lower upper]
    simp [naturalOf, within]
  | .integer, i =>
    obtain ⟨lower, upper⟩ := proper
    simp only [Kind.toValue, Kind.convert, Value.int,
      ofInt_of_range lower (Int.lt_trans upper (by decide))]
    simp [integerOf, upper]
  | .any, v => rfl
  | .dict, d => rfl
  | .choice variants, s =>
    have known : variants.contains s = true := proper
    simp only [Kind.toValue, Kind.convert, convertChoice, known, if_true]
  | .optional k, none => rfl
  | .optional k, some a =>
    have back := k.convert_toValue a proper.2
    have value := Kind.toValue_ne_null a proper.1
    unfold Kind.convert Kind.toValue
    split
    · rename_i none
      exact absurd none value
    · rw [back]
  | .list k, items =>
    unfold Kind.convert Kind.toValue
    exact convertAll_map fun a member => k.convert_toValue a (proper a member)
  | .record name fields, vs =>
    exact Kind.convert_record fun member read =>
      fields.fill_toEntries vs proper.1 proper.2 member read

theorem Fields.fill_toEntries (fields : Fields) (vs : fields.Carrier)
    (different : fields.names.Nodup) (proper : fields.Proper vs) {name : String} {v : Value}
    (member : (name, v) ∈ fields.toEntries vs) (read : List String) :
    fields.fill name v (fields.filled vs read) = .ok (fields.filled vs (name :: read)) := by
  match fields, vs with
  | .nil, () => cases member
  | .cons n required k others, (w, vs) =>
    obtain ⟨new, different⟩ := List.nodup_cons.mp different
    rcases List.mem_cons.mp member with same | later
    · cases same
      have back := k.convert_toValue w proper.1
      simp only [Fields.fill, Fields.filled, if_pos, back, List.mem_cons_self,
        others.filled_other vs new]
    · have elsewhere : name ≠ n := by
        rintro rfl
        have known : name ∈ (others.toEntries vs).map Prod.fst :=
          List.mem_map.mpr ⟨(name, v), later, rfl⟩
        rw [others.toEntries_names vs] at known
        exact new known
      have slot := others.fill_toEntries vs different proper.2 later read
      simp only [Fields.fill, Fields.filled, if_neg elsewhere, slot, List.mem_cons,
        elsewhere.symm, false_or]

end

end NotebookKernel.Json
