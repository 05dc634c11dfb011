import Mathlib.Data.List.Forall2
import NotebookKernel.Proofs.Spelling
import NotebookKernel.Proofs.Delimiting

/-!
# Values as they are printed

A list or an object is read back from its printed form if its items and fields are. A value
without numbers other than whole ones is read back, if there is room for its brackets; and no
value that is read has more brackets than there was room for.
-/

namespace NotebookKernel.Json

open Cursor

variable {c : Cursor} {rest : Bytes}

theorem skipBlanks_of_peek {b : UInt8} (p : c.peek = some b) (blank : isJsonBlank b = false) :
    c.skipBlanks = c := by
  obtain ⟨bs, text⟩ := rest_of_peek p
  rw [Cursor.skipBlanks, text, List.takeWhile_cons, blank]
  rfl

theorem stops_cons {b : UInt8} (digit : isDigit b = false) (point : b ≠ 0x2E)
    (letter : isExponentLetter b = false) : Stops (b :: rest) := by
  rintro a ⟨⟩
  exact ⟨digit, point, letter⟩

theorem stops_nil : Stops [] := nofun

theorem stops_comma : Stops (0x2C :: rest) := stops_cons rfl (by decide) rfl

theorem stops_bracket : Stops (0x5D :: rest) := stops_cons rfl (by decide) rfl

theorem stops_brace : Stops (0x7D :: rest) := stops_cons rfl (by decide) rfl

/-! ## Lists -/

/-- An item begins with a byte that is no blank and closes no list. -/
def Begins (bs : Bytes) : Prop :=
  ∃ b more, bs = b :: more ∧ isJsonBlank b = false ∧ b ≠ 0x5D

/-- The text stands for the value, whatever follows that does not go on with a number. -/
structure Written {α : Type} (read : Cursor → Except Fault (α × Cursor)) (a : α) (bs : Bytes) :
    Prop where
  begins : Begins bs
  yields : ∀ {c rest}, c.rest = bs ++ rest → Stops rest → Yields (read c) a rest

/-- Texts with a comma before each. -/
def commas : List Bytes → Bytes
  | [] => []
  | bs :: more => 0x2C :: (bs ++ commas more)

/-- Texts between commas. -/
def joined : List Bytes → Bytes
  | [] => []
  | bs :: more => bs ++ commas more

theorem length_le_commas (texts : List Bytes) : texts.length ≤ (commas texts).length := by
  induction texts with
  | nil => exact Nat.le_refl 0
  | cons bs more ih =>
    rw [commas, List.length_cons, List.length_cons, List.length_append]
    omega

/-- After an item a comma or the end of the list follows. -/
theorem stops_commas {texts : List Bytes} {b : UInt8} (stops : Stops (b :: rest)) :
    Stops (commas texts ++ b :: rest) := by
  cases texts with
  | nil => exact stops
  | cons bs more => exact stops_comma

section Lists

variable {α : Type} {read : Cursor → Except Fault (α × Cursor)}

theorem anotherItem_end (first : Bool) (text : c.rest = 0x5D :: rest) :
    anotherItem first c = .ok (false, c) := by
  simp [anotherItem, skipBlanks_of_peek (peek_cons text) rfl, peek_cons text]

theorem anotherItem_first {bs : Bytes} (begins : Begins bs) (text : c.rest = bs ++ rest) :
    anotherItem true c = .ok (true, c) := by
  obtain ⟨b, more, rfl, blank, bracket⟩ := begins
  have peek := peek_cons text
  simp [anotherItem, skipBlanks_of_peek peek blank, peek, bracket]

theorem anotherItem_next {bs : Bytes} (begins : Begins bs) (text : c.rest = 0x2C :: (bs ++ rest)) :
    ∃ c', anotherItem false c = .ok (true, c') ∧ c'.rest = bs ++ rest := by
  have after := next_cons text
  obtain ⟨b, more, rfl, blank, bracket⟩ := begins
  have peek := peek_cons text
  have peek' := peek_cons after
  refine ⟨c.next, ?_, after⟩
  simp only [anotherItem, skipBlanks_of_peek peek rfl, peek, skipBlanks_of_peek peek' blank, peek']
  grind

/-- The items after the first one. -/
theorem readItems_written {items : List α} {texts : List Bytes}
    (written : List.Forall₂ (Written read) items texts) {fuel : Nat} (enough : texts.length < fuel)
    (acc : List α) (text : c.rest = commas texts ++ 0x5D :: rest) :
    Yields (readItems read fuel false acc c) (acc.reverse ++ items) (0x5D :: rest) := by
  induction written generalizing fuel acc c with
  | nil =>
    cases fuel with
    | zero => cases enough
    | succ fuel =>
      refine ⟨c, ?_, text⟩
      rw [readItems, anotherItem_end false text]
      simp
  | @cons a bs items texts item others ih =>
    cases fuel with
    | zero => cases enough
    | succ fuel =>
      simp only [commas, List.cons_append, List.append_assoc] at text
      obtain ⟨c₁, more, text₁⟩ := anotherItem_next item.begins text
      obtain ⟨c₂, value, text₂⟩ := item.yields text₁ (stops_commas stops_bracket)
      obtain ⟨c₃, others, text₃⟩ := ih (Nat.lt_of_succ_lt_succ enough) (a :: acc) text₂
      refine ⟨c₃, ?_, text₃⟩
      rw [readItems, more]
      simp only [value, others]
      simp

theorem closeList_end (text : c.rest = 0x5D :: rest) :
    ∃ c', closeList c = .ok c' ∧ c'.rest = rest := by
  have peek := peek_cons text
  exact ⟨c.next, by simp [closeList, skipBlanks_of_peek peek rfl, peek], next_cons text⟩

/-- A list is read back if its items are. -/
theorem readList_written {items : List α} {texts : List Bytes}
    (written : List.Forall₂ (Written read) items texts)
    (text : c.rest = 0x5B :: (joined texts ++ 0x5D :: rest)) :
    Yields (readList read c) items rest := by
  have after := next_cons text
  have all : Yields (readItems read (c.rest.length + 1) true [] c.next) items (0x5D :: rest) := by
    cases written with
    | nil =>
      refine ⟨c.next, ?_, after⟩
      rw [readItems, anotherItem_end true after]
      rfl
    | @cons a bs items texts item others =>
      simp only [joined, List.append_assoc] at after text
      have enough : texts.length < c.rest.length := by
        have := length_le_commas texts
        rw [text]
        simp only [List.length_cons, List.length_append] at this ⊢
        omega
      obtain ⟨c₂, value, text₂⟩ := item.yields after (stops_commas stops_bracket)
      obtain ⟨c₃, others, text₃⟩ := readItems_written others enough [a] text₂
      refine ⟨c₃, ?_, text₃⟩
      rw [readItems, anotherItem_first item.begins after]
      simp only [value, others]
      simp
  obtain ⟨c', read, left⟩ := all
  obtain ⟨c'', close, left'⟩ := closeList_end left
  exact ⟨c'', by simp only [readList, read, close, bind, Except.bind], left'⟩

end Lists

/-! ## Objects -/

/-- The text of a field. -/
def fieldText (field : String × Bytes) : Bytes :=
  Utf8.encode (renderString field.1) ++ 0x3A :: field.2

/-- Fields that take a state to another one as they are read. -/
inductive FieldsWritten {σ : Type} (read : String → σ → Cursor → Except Fault (σ × Cursor)) :
    σ → List (String × Bytes) → σ → Prop where
  | done (s : σ) : FieldsWritten read s [] s
  | field {s s' s'' : σ} {name : String} {bs : Bytes} {more : List (String × Bytes)}
      (yields : ∀ {c rest}, c.rest = 0x3A :: (bs ++ rest) → Stops rest →
        Yields (read name s c) s' rest)
      (others : FieldsWritten read s' more s'') : FieldsWritten read s ((name, bs) :: more) s''

section Objects

variable {σ : Type} {read : String → σ → Cursor → Except Fault (σ × Cursor)}

theorem anotherField_end (first : Bool) (text : c.rest = 0x7D :: rest) :
    anotherField first c = .ok (false, c) := by
  simp [anotherField, skipBlanks_of_peek (peek_cons text) rfl, peek_cons text]

theorem anotherField_first (text : c.rest = 0x22 :: rest) :
    anotherField true c = .ok (true, c) := by
  simp [anotherField, skipBlanks_of_peek (peek_cons text) rfl, peek_cons text]

theorem anotherField_next (text : c.rest = 0x2C :: 0x22 :: rest) :
    ∃ c', anotherField false c = .ok (true, c') ∧ c'.rest = 0x22 :: rest := by
  have after := next_cons text
  refine ⟨c.next, ?_, after⟩
  simp [anotherField, skipBlanks_of_peek (peek_cons text) rfl, peek_cons text,
    skipBlanks_of_peek (peek_cons after) rfl, peek_cons after]

theorem fieldText_append (name : String) (bs : Bytes) : fieldText (name, bs) ++ rest =
    0x22 :: (Utf8.encode (name.toList.flatMap escape) ++ 0x22 :: 0x3A :: (bs ++ rest)) := by
  simp [fieldText, encode_renderString]

/-- The fields after the first one. -/
theorem readFields_written {s s' : σ} {fields : List (String × Bytes)}
    (written : FieldsWritten read s fields s') {fuel : Nat} (enough : fields.length < fuel)
    (text : c.rest = commas (fields.map fieldText) ++ 0x7D :: rest) :
    Yields (readFields read fuel false s c) s' (0x7D :: rest) := by
  induction written generalizing fuel c with
  | done s =>
    cases fuel with
    | zero => cases enough
    | succ fuel =>
      refine ⟨c, ?_, text⟩
      rw [readFields, anotherField_end false text]
  | @field s s' s'' name bs more yields others ih =>
    cases fuel with
    | zero => cases enough
    | succ fuel =>
      simp only [List.map_cons, commas, List.cons_append, List.append_assoc,
        fieldText_append] at text
      obtain ⟨c₁, another, text₁⟩ := anotherField_next text
      obtain ⟨c₂, known, text₂⟩ := readString_written name (next_cons text₁)
      obtain ⟨c₃, value, text₃⟩ := yields text₂ (stops_commas stops_brace)
      obtain ⟨c₄, fields, text₄⟩ := ih (Nat.lt_of_succ_lt_succ enough) text₃
      refine ⟨c₄, ?_, text₄⟩
      rw [readFields, another]
      simp only [known, value, fields]

/-- All fields of an object. -/
theorem readFields_object {s s' : σ} {fields : List (String × Bytes)}
    (written : FieldsWritten read s fields s')
    (text : c.rest = 0x7B :: (joined (fields.map fieldText) ++ 0x7D :: rest)) :
    Yields (readFields read (c.rest.length + 1) true s c.next) s' (0x7D :: rest) := by
  have after := next_cons text
  cases written with
  | done =>
    refine ⟨c.next, ?_, after⟩
    rw [readFields, anotherField_end true after]
  | @field _ s' _ name bs more yields others =>
    simp only [List.map_cons, joined, List.cons_append, List.append_assoc,
      fieldText_append] at after text
    have enough : more.length < c.rest.length := by
      have := length_le_commas (more.map fieldText)
      rw [text]
      simp only [List.length_cons, List.length_append, List.length_map] at this ⊢
      omega
    obtain ⟨c₂, known, text₂⟩ := readString_written name (next_cons after)
    obtain ⟨c₃, value, text₃⟩ := yields text₂ (stops_commas stops_brace)
    obtain ⟨c₄, fields, text₄⟩ := readFields_written others enough text₃
    refine ⟨c₄, ?_, text₄⟩
    rw [readFields, anotherField_first after]
    simp only [known, value, fields]

theorem closeObject_end (text : c.rest = 0x7D :: rest) :
    ∃ c', closeObject c = .ok c' ∧ c'.rest = rest := by
  have peek := peek_cons text
  exact ⟨c.next, by simp [closeObject, skipBlanks_of_peek peek rfl, peek], next_cons text⟩

theorem readColon_colon (text : c.rest = 0x3A :: rest) :
    ∃ c', readColon c = .ok c' ∧ c'.rest = rest := by
  have peek := peek_cons text
  exact ⟨c.next, by simp [readColon, skipBlanks_of_peek peek rfl, peek], next_cons text⟩

/-- An object is read back if its fields are. -/
theorem readObject_written {s s' : σ} {fields : List (String × Bytes)}
    (written : FieldsWritten read s fields s')
    (text : c.rest = 0x7B :: (joined (fields.map fieldText) ++ 0x7D :: rest)) :
    Yields (readObject read s c) s' rest := by
  obtain ⟨c', read, left⟩ := readFields_object written text
  obtain ⟨c'', close, left'⟩ := closeObject_end left
  exact ⟨c'', by simp only [readObject, read, close, bind, Except.bind], left'⟩

end Objects

/-! ## What is asked of a value -/

namespace Value

mutual

/-- The fields of every object are in increasing order of their names. -/
def Ordered : Value → Prop
  | .array items => OrderedItems items
  | .fields entries => entries.Pairwise (fun e f => e.1 < f.1) ∧ OrderedEntries entries
  | _ => True

def OrderedItems : List Value → Prop
  | [] => True
  | v :: vs => v.Ordered ∧ OrderedItems vs

def OrderedEntries : List (String × Value) → Prop
  | [] => True
  | (_, v) :: es => v.Ordered ∧ OrderedEntries es

end

mutual

/-- Every number is a whole one. -/
def Integral : Value → Prop
  | .number (.whole _) => True
  | .number (.real _) => False
  | .array items => IntegralItems items
  | .fields entries => IntegralEntries entries
  | _ => True

def IntegralItems : List Value → Prop
  | [] => True
  | v :: vs => v.Integral ∧ IntegralItems vs

def IntegralEntries : List (String × Value) → Prop
  | [] => True
  | (_, v) :: es => v.Integral ∧ IntegralEntries es

end

mutual

/-- The number of brackets that are open at once. -/
def depth : Value → Nat
  | .array items => depthItems items + 1
  | .fields entries => depthEntries entries + 1
  | _ => 0

def depthItems : List Value → Nat
  | [] => 0
  | v :: vs => max v.depth (depthItems vs)

def depthEntries : List (String × Value) → Nat
  | [] => 0
  | (_, v) :: es => max v.depth (depthEntries es)

end

/-! ## Printed values -/

theorem encode_renderItems (vs : List Value) : Utf8.encode (renderItems vs) =
    commas (vs.map fun v => Utf8.encode v.render) ++ [0x5D] := by
  induction vs with
  | nil => rfl
  | cons v vs ih =>
    rw [renderItems, Utf8.encode_cons, Utf8.encode_append, ih]
    simp only [List.map_cons, commas, List.cons_append, List.append_assoc]
    rfl

/-- The text of an array: its items between commas. -/
theorem encode_array (vs : List Value) : Utf8.encode (Value.array vs).render =
    0x5B :: (joined (vs.map fun v => Utf8.encode v.render) ++ [0x5D]) := by
  cases vs with
  | nil => rfl
  | cons v vs =>
    rw [render, Utf8.encode_cons, Utf8.encode_append, encode_renderItems]
    simp only [List.map_cons, joined, List.append_assoc]
    rfl

/-- The fields of an object with their texts. -/
def fieldTexts (es : List (String × Value)) : List (String × Bytes) :=
  es.map fun e => (e.1, Utf8.encode e.2.render)

theorem encode_renderEntries (es : List (String × Value)) : Utf8.encode (renderEntries es) =
    commas ((fieldTexts es).map fieldText) ++ [0x7D] := by
  induction es with
  | nil => rfl
  | cons e es ih =>
    obtain ⟨n, v⟩ := e
    rw [renderEntries, Utf8.encode_cons, Utf8.encode_append, Utf8.encode_cons, Utf8.encode_append,
      ih]
    simp only [fieldTexts, List.map_cons, commas, fieldText, List.cons_append, List.append_assoc]
    rfl

/-- The text of an object: its fields between commas. -/
theorem encode_fields (es : List (String × Value)) : Utf8.encode (Value.fields es).render =
    0x7B :: (joined ((fieldTexts es).map fieldText) ++ [0x7D]) := by
  cases es with
  | nil => rfl
  | cons e es =>
    obtain ⟨n, v⟩ := e
    rw [render, Utf8.encode_cons, Utf8.encode_append, Utf8.encode_cons, Utf8.encode_append,
      encode_renderEntries]
    simp only [fieldTexts, List.map_cons, joined, fieldText, List.append_assoc, List.cons_append]
    rfl

end Value

/-- A name that comes after all others is put at the end. -/
theorem Dict.insert_last {name : String} {d : Dict} (last : ∀ e ∈ d, e.1 < name) (v : Value) :
    Dict.insert name v d = d ++ [(name, v)] := by
  induction d with
  | nil => rfl
  | cons e d ih =>
    obtain ⟨n, w⟩ := e
    have before : n < name := last (n, w) List.mem_cons_self
    have other : name ≠ n := by
      rintro rfl
      exact String.lt_irrefl _ before
    rw [Dict.insert, if_neg (String.lt_asymm before), if_neg other,
      ih fun e member => last e (List.mem_cons_of_mem _ member)]
    rfl

/-- A scalar is read by its first byte. -/
theorem readValue_scalar {room : Nat} {b : UInt8} {r : Except Fault (Value × Cursor)}
    (p : c.peek = some b) (blank : isJsonBlank b = false) (scalar : readScalar b c = some r) :
    readValue room c = r := by
  unfold readValue
  simp only [skipBlanks_of_peek p blank, p, scalar]

theorem readValue_array {room : Nat} (p : c.peek = some 0x5B) : readValue (room + 1) c =
    readList (readValue room) c >>= fun (items, c) => .ok (.array items, c) := by
  rw [readValue]
  simp only [skipBlanks_of_peek p rfl, p]
  rfl

theorem readValue_object {room : Nat} (p : c.peek = some 0x7B) : readValue (room + 1) c =
    readObject (readEntry (readValue room)) [] c >>= fun (d, c) => .ok (.fields d, c) := by
  rw [readValue]
  simp only [skipBlanks_of_peek p rfl, p]
  rfl

theorem ne_of_isDigit {a b : UInt8} (digit : isDigit b = true) (other : isDigit a = false) :
    b ≠ a := by
  rintro rfl
  cases digit.symm.trans other

theorem not_blank_of_isDigit {b : UInt8} (digit : isDigit b = true) : isJsonBlank b = false := by
  rw [Bool.eq_false_iff]
  intro blank
  simp only [isJsonBlank, Bool.or_eq_true, beq_iff_eq] at blank
  rcases blank with ((rfl | rfl) | rfl) | rfl
  all_goals cases digit

theorem Yields.map {α β : Type} {r : Except Fault (α × Cursor)} {a : α} (h : Yields r a rest)
    (g : α → β) : Yields (r >>= fun (a, c) => .ok (g a, c)) (g a) rest := by
  obtain ⟨c, rfl, left⟩ := h
  exact ⟨c, rfl, left⟩

theorem readValue_word {room : Nat} {b : UInt8} (es : Bytes) {v : Value}
    (text : c.rest = b :: (es ++ rest)) (blank : isJsonBlank b = false)
    (scalar : readScalar b c = some (readIdent es c.next >>= fun c => .ok (v, c))) :
    Yields (readValue room c) v rest := by
  obtain ⟨c', read, left⟩ := readIdent_word es (next_cons text)
  exact ⟨c', by rw [readValue_scalar (peek_cons text) blank scalar, read]; rfl, left⟩

theorem readValue_string {room : Nat} (s : String)
    (text : c.rest = Utf8.encode (renderString s) ++ rest) :
    Yields (readValue room c) (.string s) rest := by
  simp only [encode_renderString, List.cons_append, List.append_assoc] at text
  rw [readValue_scalar (peek_cons text) rfl rfl]
  exact (readString_written s (next_cons text)).map Value.string

theorem readEntry_written {read : Cursor → Except Fault (Value × Cursor)} {v : Value} {bs : Bytes}
    (written : Written read v bs) (name : String) (d : Dict)
    (text : c.rest = 0x3A :: (bs ++ rest)) (stops : Stops rest) :
    Yields (readEntry read name d c) (d.insert name v) rest := by
  obtain ⟨c₁, colon, text₁⟩ := readColon_colon text
  obtain ⟨c₂, value, left⟩ := written.yields text₁ stops
  exact ⟨c₂, by simp only [readEntry, colon, value, bind, Except.bind], left⟩

theorem readValue_number {room : Nat} {n : Number} (number : ReadsNumber c n rest) :
    Yields (readValue room c) (.number n) rest := by
  rcases number with ⟨p, c', read, left⟩ | ⟨b, p, minus, digit, c', read, left⟩
  · refine ⟨c', ?_, left⟩
    rw [readValue_scalar p rfl rfl, read]
    rfl
  · refine ⟨c', ?_, left⟩
    have scalar : readScalar b c =
        some (readNumber false c >>= fun p => .ok (.number p.1, p.2)) := by
      rw [readScalar, if_neg (ne_of_isDigit digit rfl), if_neg (ne_of_isDigit digit rfl),
        if_neg (ne_of_isDigit digit rfl), if_neg minus, if_pos digit]
    rw [readValue_scalar p (not_blank_of_isDigit digit) scalar, read]
    rfl

theorem begins_of_peek {bs : Bytes} {b : UInt8} (p : (Cursor.start bs).peek = some b)
    (blank : isJsonBlank b = false) (bracket : b ≠ 0x5D) : Begins bs := by
  obtain ⟨more, text⟩ := rest_of_peek p
  exact ⟨b, more, text, blank, bracket⟩

namespace Value

/-- A value is printed from a byte on that is no blank and closes nothing. -/
theorem begins_render (v : Value) (integral : v.Integral) : Begins (Utf8.encode v.render) := by
  cases v with
  | null => exact begins_of_peek rfl rfl (by decide)
  | bool b =>
    cases b with
    | false => exact begins_of_peek rfl rfl (by decide)
    | true => exact begins_of_peek rfl rfl (by decide)
  | number n =>
    cases n with
    | real x => cases integral
    | whole w =>
      have text : (Cursor.start (Utf8.encode (renderInt w.val))).rest =
        Utf8.encode (renderInt w.val) ++ [] := (List.append_nil _).symm
      rcases readNumber_written w text stops_nil with ⟨p, _⟩ | ⟨b, p, _, digit, _⟩
      · exact begins_of_peek p rfl (by decide)
      · exact begins_of_peek p (not_blank_of_isDigit digit) (ne_of_isDigit digit rfl)
  | string s =>
    rw [render, encode_renderString]
    exact ⟨_, _, rfl, rfl, by decide⟩
  | array vs =>
    rw [encode_array]
    exact ⟨_, _, rfl, rfl, by decide⟩
  | fields es =>
    rw [encode_fields]
    exact ⟨_, _, rfl, rfl, by decide⟩

mutual

/-- A printed value is read back, if there is room for its brackets. -/
theorem written (v : Value) (ordered : v.Ordered) (integral : v.Integral) {room : Nat}
    (fits : v.depth ≤ room) : Written (readValue room) v (Utf8.encode v.render) := by
  refine ⟨begins_render v integral, ?_⟩
  intro c rest text stops
  match v with
  | .null => exact readValue_word [0x75, 0x6C, 0x6C] text rfl rfl
  | .bool true => exact readValue_word [0x72, 0x75, 0x65] text rfl rfl
  | .bool false => exact readValue_word [0x61, 0x6C, 0x73, 0x65] text rfl rfl
  | .number (.whole w) => exact readValue_number (readNumber_written w text stops)
  | .string s => exact readValue_string s text
  | .array vs =>
    cases room with
    | zero => cases fits
    | succ room =>
      have items := written_items vs ordered integral (Nat.le_of_succ_le_succ fits)
      simp only [encode_array, List.cons_append, List.append_assoc] at text
      rw [readValue_array (peek_cons text)]
      exact (readList_written items text).map Value.array
  | .fields es =>
    cases room with
    | zero => cases fits
    | succ room =>
      have entries := written_entries es ordered.1 ordered.2 integral
        (Nat.le_of_succ_le_succ fits) [] nofun
      simp only [encode_fields, List.cons_append, List.append_assoc] at text
      rw [readValue_object (peek_cons text)]
      exact (readObject_written entries text).map Value.fields

theorem written_items (vs : List Value) (ordered : OrderedItems vs) (integral : IntegralItems vs)
    {room : Nat} (fits : depthItems vs ≤ room) :
    List.Forall₂ (Written (readValue room)) vs (vs.map fun v => Utf8.encode v.render) := by
  match vs with
  | [] => exact .nil
  | v :: vs =>
    have first := written v ordered.1 integral.1 (Nat.le_trans (Nat.le_max_left ..) fits)
    have others := written_items vs ordered.2 integral.2 (Nat.le_trans (Nat.le_max_right ..) fits)
    exact .cons first others

theorem written_entries (es : List (String × Value)) (sorted : es.Pairwise fun e f => e.1 < f.1)
    (ordered : OrderedEntries es) (integral : IntegralEntries es) {room : Nat}
    (fits : depthEntries es ≤ room) (d : Dict) (before : ∀ e ∈ d, ∀ f ∈ es, e.1 < f.1) :
    FieldsWritten (readEntry (readValue room)) d (fieldTexts es) (d ++ es) := by
  match es with
  | [] =>
    rw [List.append_nil]
    exact .done d
  | (n, v) :: es =>
    have value := written v ordered.1 integral.1 (Nat.le_trans (Nat.le_max_left ..) fits)
    have last := Dict.insert_last (fun e member => before e member (n, v) List.mem_cons_self) v
    refine .field (fun text stops => readEntry_written value n d text stops) ?_
    rw [last, show d ++ (n, v) :: es = d ++ [(n, v)] ++ es by simp]
    refine written_entries es sorted.of_cons ordered.2 integral.2
      (Nat.le_trans (Nat.le_max_right ..) fits) _ ?_
    intro e member f member'
    rw [List.mem_append, List.mem_singleton] at member
    rcases member with member | rfl
    · exact before e member f (List.mem_cons_of_mem _ member')
    · exact List.rel_of_pairwise_cons sorted member'

end

end Value

/-! ## Values that were read -/

section Keeps

variable {α σ : Type}

theorem bind_eq_ok {ε β : Type} {r : Except ε α} {f : α → Except ε β} {b : β} :
    (r >>= f) = .ok b ↔ ∃ a, r = .ok a ∧ f a = .ok b := by
  cases r with
  | error e => simp [bind, Except.bind]
  | ok a => simp [bind, Except.bind]

/-- What holds of every item that is read holds of the items of a list. -/
theorem readItems_all {read : Cursor → Except Fault (α × Cursor)} {P : α → Prop}
    (item : ∀ c p, read c = .ok p → P p.1) {fuel : Nat} {first : Bool} {acc : List α}
    {p : List α × Cursor} (before : ∀ a ∈ acc, P a)
    (h : readItems read fuel first acc c = .ok p) : ∀ a ∈ p.1, P a := by
  induction fuel generalizing first acc c with
  | zero => cases h
  | succ fuel ih =>
    rw [readItems] at h
    split at h
    · cases h
    · cases h
      exact fun a member => before a (List.mem_reverse.mp member)
    · split at h
      · cases h
      · rename_i a _ value
        refine ih ?_ h
        rintro b (_ | ⟨_, member⟩)
        · exact item _ _ value
        · exact before b member

theorem readList_all {read : Cursor → Except Fault (α × Cursor)} {P : α → Prop}
    (item : ∀ c p, read c = .ok p → P p.1) {p : List α × Cursor} (h : readList read c = .ok p) :
    ∀ a ∈ p.1, P a := by
  obtain ⟨⟨items, c'⟩, all, h⟩ := bind_eq_ok.mp h
  obtain ⟨c'', close, h⟩ := bind_eq_ok.mp h
  cases h
  have none : ∀ a ∈ ([] : List α), P a := by simp
  exact readItems_all (p := (items, c')) item none all

/-- What every field keeps is kept by the fields of an object. -/
theorem readFields_keeps {read : String → σ → Cursor → Except Fault (σ × Cursor)} {P : σ → Prop}
    (field : ∀ name s c p, P s → read name s c = .ok p → P p.1) {fuel : Nat} {first : Bool}
    {s : σ} {p : σ × Cursor} (before : P s) (h : readFields read fuel first s c = .ok p) :
    P p.1 := by
  induction fuel generalizing first s c with
  | zero => cases h
  | succ fuel ih =>
    rw [readFields] at h
    split at h
    · cases h
    · cases h
      exact before
    · split at h
      · cases h
      · split at h
        · cases h
        · rename_i value
          exact ih (field _ _ _ _ before value) h

theorem readObject_keeps {read : String → σ → Cursor → Except Fault (σ × Cursor)} {P : σ → Prop}
    (field : ∀ name s c p, P s → read name s c = .ok p → P p.1) {s : σ} {p : σ × Cursor}
    (before : P s) (h : readObject read s c = .ok p) : P p.1 := by
  obtain ⟨⟨s', c'⟩, all, h⟩ := bind_eq_ok.mp h
  obtain ⟨c'', close, h⟩ := bind_eq_ok.mp h
  cases h
  exact readFields_keeps (p := (s', c')) field before all

end Keeps

theorem Dict.mem_insert {name : String} {v : Value} {d : Dict} {e : String × Value}
    (member : e ∈ Dict.insert name v d) : e = (name, v) ∨ e ∈ d := by
  induction d with
  | nil => exact Or.inl (List.mem_singleton.mp member)
  | cons f d ih =>
    obtain ⟨n, w⟩ := f
    rw [Dict.insert] at member
    split at member
    · exact List.mem_cons.mp member
    · split at member
      · rcases List.mem_cons.mp member with h | h
        · exact Or.inl h
        · exact Or.inr (List.mem_cons_of_mem _ h)
      · rcases List.mem_cons.mp member with h | h
        · exact Or.inr (h ▸ List.mem_cons_self)
        · exact (ih h).imp_right (List.mem_cons_of_mem _)

namespace Value

theorem depthItems_le {n : Nat} {vs : List Value} (h : ∀ v ∈ vs, v.depth ≤ n) :
    depthItems vs ≤ n := by
  induction vs with
  | nil => exact Nat.zero_le n
  | cons v vs ih =>
    exact Nat.max_le.mpr ⟨h v List.mem_cons_self,
      ih fun v member => h v (List.mem_cons_of_mem _ member)⟩

theorem depthEntries_le {n : Nat} {es : List (String × Value)} (h : ∀ e ∈ es, e.2.depth ≤ n) :
    depthEntries es ≤ n := by
  induction es with
  | nil => exact Nat.zero_le n
  | cons e es ih =>
    exact Nat.max_le.mpr ⟨h e List.mem_cons_self,
      ih fun e member => h e (List.mem_cons_of_mem _ member)⟩

theorem orderedItems_of_forall {vs : List Value} (h : ∀ v ∈ vs, v.Ordered) : OrderedItems vs := by
  induction vs with
  | nil => trivial
  | cons v vs ih =>
    obtain ⟨first, rest⟩ := List.forall_mem_cons.mp h
    exact ⟨first, ih rest⟩

theorem orderedEntries_of_forall {es : List (String × Value)} (h : ∀ e ∈ es, e.2.Ordered) :
    OrderedEntries es := by
  induction es with
  | nil => trivial
  | cons e es ih =>
    obtain ⟨first, rest⟩ := List.forall_mem_cons.mp h
    exact ⟨first, ih rest⟩

end Value

/-- Inserting a field keeps the names in increasing order. -/
theorem Dict.insert_sorted {name : String} {v : Value} {d : Dict}
    (sorted : d.Pairwise fun e f => e.1 < f.1) :
    (Dict.insert name v d).Pairwise fun e f => e.1 < f.1 := by
  induction d with
  | nil => exact List.pairwise_singleton _ _
  | cons e d ih =>
    obtain ⟨n, w⟩ := e
    obtain ⟨first, rest⟩ := List.pairwise_cons.mp sorted
    rw [Dict.insert]
    split
    · rename_i before
      refine List.pairwise_cons.mpr ⟨fun f member => ?_, sorted⟩
      rcases List.mem_cons.mp member with rfl | member
      · exact before
      · exact String.lt_trans before (first f member)
    · split
      · rename_i same
        subst same
        exact List.pairwise_cons.mpr ⟨first, rest⟩
      · rename_i before differs
        refine List.pairwise_cons.mpr ⟨fun f member => ?_, ih rest⟩
        rcases Dict.mem_insert member with rfl | member
        · refine Decidable.byContradiction fun after => differs ?_
          exact String.le_antisymm (String.not_lt.mp after) (String.not_lt.mp before)
        · exact first f member

/-- The values of a dictionary have a property, and its names are in increasing order. -/
structure Dict.Keeps (P : Value → Prop) (d : Dict) : Prop where
  sorted : d.Pairwise fun e f => e.1 < f.1
  values : ∀ e ∈ d, P e.2

theorem readEntry_keeps {P : Value → Prop} {read : Cursor → Except Fault (Value × Cursor)}
    (value : ∀ c p, read c = .ok p → P p.1) (name : String) (d : Dict) (c : Cursor)
    (p : Dict × Cursor) (before : d.Keeps P) (h : readEntry read name d c = .ok p) :
    p.1.Keeps P := by
  obtain ⟨c', colon, h⟩ := bind_eq_ok.mp h
  obtain ⟨q, found, h⟩ := bind_eq_ok.mp h
  cases h
  refine ⟨Dict.insert_sorted before.sorted, fun e member => ?_⟩
  rcases Dict.mem_insert member with rfl | member
  · exact value _ _ found
  · exact before.values e member

theorem readScalar_plain {b : UInt8} {q : Value × Cursor} (p : c.peek = some b)
    (h : readScalar b c = some (.ok q)) : ¬q.1.Bracketed := by
  have same : Extends [] c c := ⟨(List.append_nil _).symm⟩
  rcases readScalar_cases same p with ⟨none, _⟩ | ⟨r, _, found, _, scalar⟩
  · cases none.symm.trans h
  · cases found.symm.trans h
    exact scalar.plain q rfl

/-- A property of values and of the room that they need, which scalars have and which lists and
objects get from what they hold. The fields of an object are in order. -/
structure Inherited (P : Nat → Value → Prop) : Prop where
  scalar : ∀ room v, ¬v.Bracketed → P room v
  list : ∀ room vs, (∀ v ∈ vs, P room v) → P (room + 1) (.array vs)
  object : ∀ room d, Dict.Keeps (P room) d → P (room + 1) (.fields d)

theorem Inherited.readObject {P : Nat → Value → Prop} (h : Inherited P) {room : Nat}
    {q : Dict × Cursor} (value : ∀ c p, readValue room c = .ok p → P room p.1)
    (read : readObject (readEntry (readValue room)) [] c = .ok q) :
    P (room + 1) (.fields q.1) := by
  have nothing : Dict.Keeps (P room) [] := ⟨.nil, by simp⟩
  exact h.object room q.1 (readObject_keeps (readEntry_keeps value) nothing read)

/-- Every value that is read has what lists and objects inherit. -/
theorem Inherited.readValue {P : Nat → Value → Prop} (h : Inherited P) {room : Nat}
    {q : Value × Cursor} (read : readValue room c = .ok q) : P room q.1 := by
  induction room generalizing c q with
  | zero =>
    unfold Json.readValue at read
    simp only at read
    split at read
    · cases read
    · rename_i b peek
      split at read
      · rename_i r scalar
        exact h.scalar 0 q.1 (readScalar_plain peek (read ▸ scalar))
      · grind [Cursor.failNext, Cursor.fail]
  | succ room ih =>
    rw [Json.readValue] at read
    simp only at read
    split at read
    · cases read
    · rename_i b peek
      split at read
      · rename_i r scalar
        exact h.scalar _ q.1 (readScalar_plain peek (read ▸ scalar))
      · split at read
        · obtain ⟨⟨items, c'⟩, all, read⟩ := bind_eq_ok.mp read
          cases read
          exact h.list room items (readList_all (fun _ _ => ih) all)
        · split at read
          · obtain ⟨⟨entries, c'⟩, all, read⟩ := bind_eq_ok.mp read
            cases read
            exact h.readObject (q := (entries, c')) (fun _ _ => ih) all
          · cases read

/-- A value that is read has no more brackets than there was room for. -/
theorem depth_inherited : Inherited fun room v => v.depth ≤ room where
  scalar room v plain := by
    cases v with
    | array vs => exact absurd trivial plain
    | fields es => exact absurd trivial plain
    | _ => exact Nat.zero_le room
  list _ _ each := Nat.succ_le_succ (Value.depthItems_le each)
  object _ _ each := Nat.succ_le_succ (Value.depthEntries_le each.values)

/-- The objects of a value that is read are in order. -/
theorem ordered_inherited : Inherited fun _ v => v.Ordered where
  scalar room v plain := by
    cases v with
    | array vs => exact absurd trivial plain
    | fields es => exact absurd trivial plain
    | _ => trivial
  list _ _ each := Value.orderedItems_of_forall each
  object _ _ each := ⟨each.sorted, Value.orderedEntries_of_forall each.values⟩

end NotebookKernel.Json
