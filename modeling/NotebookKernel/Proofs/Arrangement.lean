import NotebookKernel.Proofs.Skipping
import NotebookKernel.Proofs.RoundTrip

/-!
# Documents in any arrangement

A document need not stand in a text as it is printed. Blanks may stand between its parts, the
fields of a record come in any order and among fields that nobody asked for, and a field that has
the value of an absent one may be absent. However a document is arranged, it is read back.
-/

namespace NotebookKernel.Json

open Cursor

variable {c : Cursor} {rest : Bytes}

/-! ## Blanks between the parts -/

/-- Blanks between two parts of a text, or nothing. -/
structure Gap where
  chars : List Char
  blank : ∀ ch ∈ chars, ch ∈ [' ', '\n', '\r', '\t']

namespace Gap

def bytes (g : Gap) : Bytes := Utf8.encode g.chars

/-- No blanks at all. -/
def empty : Gap := ⟨[], nofun⟩

def append (g h : Gap) : Gap where
  chars := g.chars ++ h.chars
  blank ch member := (List.mem_append.mp member).elim (g.blank ch) (h.blank ch)

theorem append_bytes (g h : Gap) : (g.append h).bytes = g.bytes ++ h.bytes :=
  Utf8.encode_append g.chars h.chars

theorem all_blank (g : Gap) : ∀ b ∈ g.bytes, isJsonBlank b = true := by
  obtain ⟨chars, blank⟩ := g
  intro b member
  obtain ⟨ch, inside, byte⟩ := List.mem_flatMap.mp member
  have known := blank ch inside
  simp only [List.mem_cons, List.not_mem_nil, or_false] at known
  rcases known with rfl | rfl | rfl | rfl
  all_goals
    obtain rfl := List.mem_singleton.mp byte
    rfl

theorem dropWhile (g : Gap) (rest : Bytes) :
    (g.bytes ++ rest).dropWhile isJsonBlank = rest.dropWhile isJsonBlank :=
  List.dropWhile_append_of_pos g.all_blank

/-- No number goes on where blanks begin. -/
theorem stops (g : Gap) (stops : Stops rest) : Stops (g.bytes ++ rest) := by
  cases bytes : g.bytes with
  | nil => exact stops
  | cons b more =>
    have blank := g.all_blank b (bytes ▸ List.mem_cons_self)
    simp only [isJsonBlank, Bool.or_eq_true, beq_iff_eq] at blank
    rcases blank with ((rfl | rfl) | rfl) | rfl
    all_goals exact stops_cons rfl (by decide) rfl

end Gap

/-- A byte that is no blank is where blanks end. -/
theorem Gap.skip (g : Gap) {b : UInt8} (solid : isJsonBlank b = false)
    (text : c.rest = g.bytes ++ b :: rest) : c.skipBlanks.rest = b :: rest := by
  rw [skipBlanks_rest, text, g.dropWhile, List.dropWhile_cons, solid]
  rfl

theorem Gap.skip_begins (g : Gap) {bs : Bytes} (begins : Begins bs)
    (text : c.rest = g.bytes ++ (bs ++ rest)) : c.skipBlanks.rest = bs ++ rest := by
  obtain ⟨b, more, rfl, solid, _⟩ := begins
  exact g.skip solid text

theorem anotherItem_skipBlanks (first : Bool) (c : Cursor) :
    anotherItem first c.skipBlanks = anotherItem first c := by
  simp only [anotherItem, skipBlanks_skipBlanks]

theorem anotherField_skipBlanks (first : Bool) (c : Cursor) :
    anotherField first c.skipBlanks = anotherField first c := by
  simp only [anotherField, skipBlanks_skipBlanks]

theorem readColon_skipBlanks (c : Cursor) : readColon c.skipBlanks = readColon c := by
  simp only [readColon, skipBlanks_skipBlanks]

/-- A text between blanks. -/
structure Spaced where
  before : Gap
  text : List Char
  after : Gap

def Spaced.chars (s : Spaced) : List Char := s.before.chars ++ (s.text ++ s.after.chars)

def Spaced.bytes (s : Spaced) : Bytes := Utf8.encode s.chars

theorem Spaced.bytes_append (s : Spaced) (rest : Bytes) : s.bytes ++ rest =
    s.before.bytes ++ (Utf8.encode s.text ++ (s.after.bytes ++ rest)) := by
  simp [Spaced.bytes, Spaced.chars, Gap.bytes]

/-! ## Lists -/

/-- A list, from its opening bracket to its closing one. -/
def listText (g : Gap) (items : List Spaced) : List Char :=
  '[' :: (g.chars ++ (separated (items.map Spaced.chars) ++ [']']))

theorem encode_listText (g : Gap) (items : List Spaced) : Utf8.encode (listText g items) =
    0x5B :: (g.bytes ++ (joined (items.map Spaced.bytes) ++ [0x5D])) := by
  rw [listText, Utf8.encode_cons, Utf8.encode_append, Utf8.encode_append, encode_separated,
    List.map_map]
  rfl

/-- Between two items or fields, and after the last one, stands a byte that is no blank. -/
theorem commas_solid (texts : List Bytes) {b : UInt8} (solid : isJsonBlank b = false)
    (rest : Bytes) : ∃ b' more, commas texts ++ b :: rest = b' :: more ∧
      isJsonBlank b' = false := by
  cases texts with
  | nil => exact ⟨b, rest, rfl, solid⟩
  | cons bs texts => exact ⟨0x2C, _, rfl, rfl⟩

/-- The blanks after an item or a field are over where the next one begins or nothing else does. -/
theorem Gap.skip_commas (g : Gap) {texts : List Bytes} {b : UInt8} (solid : isJsonBlank b = false)
    (text : c.rest = g.bytes ++ (commas texts ++ b :: rest)) :
    c.skipBlanks.rest = commas texts ++ b :: rest := by
  obtain ⟨b', more, same, solid'⟩ := commas_solid texts solid rest
  rw [same] at text ⊢
  exact g.skip solid' text

section Lists

variable {α : Type} {read : Cursor → Except Fault (α × Cursor)}

theorem anotherItem_spaced (g : Gap) {bs : Bytes} (begins : Begins bs)
    (text : c.rest = 0x2C :: (g.bytes ++ (bs ++ rest))) :
    ∃ c', anotherItem false c = .ok (true, c') ∧ c'.rest = bs ++ rest := by
  have after := g.skip_begins begins (next_cons text)
  obtain ⟨b, more, rfl, blank, bracket⟩ := begins
  have peek := peek_cons text
  have peek' := peek_cons after
  refine ⟨c.next.skipBlanks, ?_, after⟩
  simp only [anotherItem, skipBlanks_of_peek peek rfl, peek, peek']
  grind

/-- The items after the first one. -/
theorem readItems_spaced {items : List α} {parts : List Spaced}
    (written : List.Forall₂ (fun a s => Written read a (Utf8.encode s.text)) items parts)
    {fuel : Nat} (enough : parts.length < fuel) (acc : List α)
    (text : c.skipBlanks.rest = commas (parts.map Spaced.bytes) ++ 0x5D :: rest) :
    Yields (readItems read fuel false acc c) (acc.reverse ++ items) (0x5D :: rest) := by
  -- The comma, or the bracket, is the first byte behind the blanks at the cursor.
  induction written generalizing fuel acc c with
  | nil =>
    cases fuel with
    | zero => cases enough
    | succ fuel =>
      refine ⟨c.skipBlanks, ?_, text⟩
      rw [readItems, ← anotherItem_skipBlanks, anotherItem_end false text]
      simp
  | @cons a s items parts item others ih =>
    cases fuel with
    | zero => cases enough
    | succ fuel =>
      simp only [List.map_cons, commas, List.cons_append, List.append_assoc,
        Spaced.bytes_append] at text
      obtain ⟨c₁, more, text₁⟩ := anotherItem_spaced s.before item.begins text
      obtain ⟨c₂, value, text₂⟩ :=
        item.yields text₁ (s.after.stops (stops_commas stops_bracket))
      obtain ⟨c₃, others, text₃⟩ := ih (Nat.lt_of_succ_lt_succ enough) (a :: acc)
        (s.after.skip_commas rfl text₂)
      refine ⟨c₃, ?_, text₃⟩
      rw [readItems, ← anotherItem_skipBlanks, more]
      simp only [value, others]
      simp

/-- A list is read back if its items are, whatever blanks it holds. -/
theorem readList_spaced (g : Gap) {items : List α} {parts : List Spaced}
    (written : List.Forall₂ (fun a s => Written read a (Utf8.encode s.text)) items parts)
    (text : c.rest = 0x5B :: (g.bytes ++ (joined (parts.map Spaced.bytes) ++ 0x5D :: rest))) :
    Yields (readList read c) items rest := by
  have after := next_cons text
  have all : Yields (readItems read (c.rest.length + 1) true [] c.next) items (0x5D :: rest) := by
    cases written with
    | nil =>
      have ended := g.skip rfl after
      refine ⟨c.next.skipBlanks, ?_, ended⟩
      rw [readItems, ← anotherItem_skipBlanks, anotherItem_end true ended]
      rfl
    | @cons a s items parts item others =>
      have enough : parts.length < c.rest.length := by
        have := length_le_commas (parts.map Spaced.bytes)
        rw [text]
        simp only [List.map_cons, joined, List.length_cons, List.length_append,
          List.length_map] at this ⊢
        omega
      simp only [List.map_cons, joined, List.append_assoc, Spaced.bytes_append] at after
      -- The blanks after the bracket and those before the first item are one run.
      rw [← List.append_assoc, ← Gap.append_bytes] at after
      have begun := (g.append s.before).skip_begins item.begins after
      obtain ⟨c₂, value, text₂⟩ :=
        item.yields begun (s.after.stops (stops_commas stops_bracket))
      obtain ⟨c₃, others, text₃⟩ :=
        readItems_spaced others enough [a] (s.after.skip_commas rfl text₂)
      refine ⟨c₃, ?_, text₃⟩
      rw [readItems, ← anotherItem_skipBlanks, anotherItem_first item.begins begun]
      simp only [value, others]
      simp
  obtain ⟨c', read, left⟩ := all
  obtain ⟨c'', close, left'⟩ := closeList_end left
  exact ⟨c'', by simp only [readList, read, close, bind, Except.bind], left'⟩

end Lists

/-! ## Objects -/

/-- A field as it stands in an object. -/
structure Member where
  before : Gap
  name : String
  colon : Gap
  value : Spaced

namespace Member

/-- The field after its name and without the blanks after its value. -/
def body (m : Member) : Bytes :=
  m.colon.bytes ++ 0x3A :: (m.value.before.bytes ++ Utf8.encode m.value.text)

def chars (m : Member) : List Char :=
  m.before.chars ++ (renderString m.name ++ (m.colon.chars ++ ':' :: m.value.chars))

def bytes (m : Member) : Bytes := Utf8.encode m.chars

theorem bytes_append (m : Member) (rest : Bytes) : m.bytes ++ rest = m.before.bytes ++
    0x22 :: (Utf8.encode (m.name.toList.flatMap escape) ++
      0x22 :: (m.body ++ (m.value.after.bytes ++ rest))) := by
  have colon : String.utf8EncodeChar ':' = [0x3A] := rfl
  simp [bytes, chars, body, Spaced.chars, Gap.bytes, encode_renderString, colon]

end Member

/-- An object, from its opening brace to its closing one. -/
def objectText (g : Gap) (members : List Member) : List Char :=
  '\x7b' :: (g.chars ++ (separated (members.map Member.chars) ++ ['\x7d']))

theorem encode_objectText (g : Gap) (members : List Member) :
    Utf8.encode (objectText g members) =
      0x7B :: (g.bytes ++ (joined (members.map Member.bytes) ++ [0x7D])) := by
  rw [objectText, Utf8.encode_cons, Utf8.encode_append, Utf8.encode_append, encode_separated,
    List.map_map]
  rfl

/-- Members that take a state to another one as they are read. -/
inductive MembersRead {σ : Type} (read : String → σ → Cursor → Except Fault (σ × Cursor)) :
    σ → List Member → σ → Prop where
  | done (s : σ) : MembersRead read s [] s
  | member {s s' s'' : σ} {m : Member} {more : List Member}
      (yields : ∀ {c rest}, c.rest = m.body ++ rest → Stops rest → Yields (read m.name s c) s' rest)
      (others : MembersRead read s' more s'') : MembersRead read s (m :: more) s''

section Objects

variable {σ : Type} {read : String → σ → Cursor → Except Fault (σ × Cursor)}

theorem anotherField_spaced (g : Gap) (text : c.rest = 0x2C :: (g.bytes ++ 0x22 :: rest)) :
    ∃ c', anotherField false c = .ok (true, c') ∧ c'.rest = 0x22 :: rest := by
  have after := g.skip rfl (next_cons text)
  refine ⟨c.next.skipBlanks, ?_, after⟩
  simp [anotherField, skipBlanks_of_peek (peek_cons text) rfl, peek_cons text, peek_cons after]

/-- The fields after the first one. -/
theorem readFields_spaced {s s' : σ} {members : List Member}
    (each : MembersRead read s members s') {fuel : Nat} (enough : members.length < fuel)
    (text : c.skipBlanks.rest = commas (members.map Member.bytes) ++ 0x7D :: rest) :
    Yields (readFields read fuel false s c) s' (0x7D :: rest) := by
  induction each generalizing fuel c with
  | done s =>
    cases fuel with
    | zero => cases enough
    | succ fuel =>
      refine ⟨c.skipBlanks, ?_, text⟩
      rw [readFields, ← anotherField_skipBlanks, anotherField_end false text]
  | @member s s' s'' m more yields others ih =>
    cases fuel with
    | zero => cases enough
    | succ fuel =>
      simp only [List.map_cons, commas, List.cons_append, List.append_assoc,
        Member.bytes_append] at text
      obtain ⟨c₁, another, text₁⟩ := anotherField_spaced m.before text
      obtain ⟨c₂, known, text₂⟩ := readString_written m.name (next_cons text₁)
      obtain ⟨c₃, value, text₃⟩ := yields text₂ (m.value.after.stops (stops_commas stops_brace))
      obtain ⟨c₄, fields, text₄⟩ :=
        ih (Nat.lt_of_succ_lt_succ enough) (m.value.after.skip_commas rfl text₃)
      refine ⟨c₄, ?_, text₄⟩
      rw [readFields, ← anotherField_skipBlanks, another]
      simp only [known, value, fields]

/-- All fields of an object, whatever blanks it holds. -/
theorem readFields_members (g : Gap) {s s' : σ} {members : List Member}
    (each : MembersRead read s members s')
    (text : c.rest = 0x7B :: (g.bytes ++ (joined (members.map Member.bytes) ++ 0x7D :: rest))) :
    Yields (readFields read (c.rest.length + 1) true s c.next) s' (0x7D :: rest) := by
  have after := next_cons text
  cases each with
  | done =>
    have ended := g.skip rfl after
    refine ⟨c.next.skipBlanks, ?_, ended⟩
    rw [readFields, ← anotherField_skipBlanks, anotherField_end true ended]
  | @member _ s' _ m more yields others =>
    have enough : more.length < c.rest.length := by
      have := length_le_commas (more.map Member.bytes)
      rw [text]
      simp only [List.map_cons, joined, List.length_cons, List.length_append,
        List.length_map] at this ⊢
      omega
    simp only [List.map_cons, joined, List.cons_append, List.append_assoc,
      Member.bytes_append] at after
    rw [← List.append_assoc, ← Gap.append_bytes] at after
    have begun := (g.append m.before).skip rfl after
    obtain ⟨c₂, known, text₂⟩ := readString_written m.name (next_cons begun)
    obtain ⟨c₃, value, text₃⟩ := yields text₂ (m.value.after.stops (stops_commas stops_brace))
    obtain ⟨c₄, fields, text₄⟩ :=
      readFields_spaced others enough (m.value.after.skip_commas rfl text₃)
    refine ⟨c₄, ?_, text₄⟩
    rw [readFields, ← anotherField_skipBlanks, anotherField_first begun]
    simp only [known, value, fields]

end Objects

/-- Behind the name of a field, its colon is read first. -/
theorem Member.readColon_body (m : Member) (text : c.rest = m.body ++ rest) :
    ∃ c', readColon c = .ok c' ∧
      c'.rest = m.value.before.bytes ++ (Utf8.encode m.value.text ++ rest) := by
  simp only [body, List.append_assoc, List.cons_append] at text
  rw [← readColon_skipBlanks]
  exact readColon_colon (m.colon.skip rfl text)

/-! ## Values that nobody asked for -/

/-- The text can be passed over wherever it stands, unless something goes on with its number. -/
def Skippable (t : List Char) : Prop :=
  ∀ ⦃c : Cursor⦄ ⦃rest : Bytes⦄, c.rest = Utf8.encode t ++ rest → Stops rest →
    ∃ c', skipValue c = .ok c' ∧ c'.rest = rest

/-- What is read as a value, however deep, can be passed over. -/
theorem Written.skippable {room : Nat} {v : Value} {t : List Char}
    (written : Written (readValue room) v (Utf8.encode t)) : Skippable t := by
  intro c rest text stops
  obtain ⟨c', read, left⟩ := written.yields text stops
  exact ⟨c', skipValue_of_readValue read, left⟩

theorem skipFrom_skipBlanks (fuel : Nat) (frames : List Frame) (c : Cursor) :
    skipFrom (fuel + 1) frames .value c.skipBlanks = skipFrom (fuel + 1) frames .value c := by
  simp only [skipFrom, skipBlanks_skipBlanks]

/-- Blanks before a value are passed over with it. -/
theorem skipValue_gap (g : Gap) {t : List Char} (skippable : Skippable t)
    (text : c.rest = g.bytes ++ (Utf8.encode t ++ rest)) (stops : Stops rest) :
    ∃ c', skipValue c = .ok c' ∧ c'.rest = rest := by
  let bare : Cursor := .start (Utf8.encode t ++ rest)
  have alone : bare.rest = Utf8.encode t ++ rest := rfl
  obtain ⟨d, skipped, left⟩ := skippable alone stops
  -- Behind the blanks, the value alone and the value in its place go on alike.
  have same : Extends [] bare.skipBlanks c.skipBlanks := by
    refine ⟨?_⟩
    rw [List.append_nil, skipBlanks_rest, skipBlanks_rest, text, g.dropWhile]
    rfl
  have enough : 2 * bare.rest.length + 2 ≤ 2 * c.rest.length + 2 := by
    simp only [bare, Cursor.start, text, List.length_append]
    omega
  have settled : Settled [] d := Or.inr rfl
  rw [skipValue, ← skipFrom_skipBlanks] at skipped
  obtain ⟨c', skipped', after⟩ := skipFrom_open enough [] .value same d skipped settled
  rw [skipFrom_skipBlanks] at skipped'
  exact ⟨c', skipped', by rw [after.rest, left, List.append_nil]⟩

/-! ## Arranged documents -/

/-- No field of the record is given twice, and what else is given can be passed over. -/
structure Fields.Orderly (fields : Fields) (members : List Member) : Prop where
  once : members.Pairwise fun m m' => m.name = m'.name → m.name ∉ fields.names
  others : ∀ m ∈ members, m.name ∉ fields.names → Skippable m.value.text

mutual

/-- The text is one of those that the document can be written as. -/
def Kind.Arranged : (k : Kind) → k.Carrier → List Char → Prop
  | .optional k, o, t =>
      match o with
      | none => t = Value.render .null
      | some a => k.Arranged a t
  | .list k, items, t =>
      ∃ (g : Gap) (parts : List Spaced), t = listText g parts ∧
        List.Forall₂ (fun a s => k.Arranged a s.text) items parts
  | .record _ fields, vs, t =>
      ∃ (g : Gap) (members : List Member), t = objectText g members ∧ fields.Orderly members ∧
        fields.Shown vs members
  | k, a, t => t = k.render a

/-- Every field is given with its value, or may be absent and has the value of an absent one. -/
def Fields.Shown : (fields : Fields) → fields.Carrier → List Member → Prop
  | .nil, (), _ => True
  | .cons name required k rest, (v, vs), members =>
      (∀ m ∈ members, m.name = name → k.Arranged v m.value.text) ∧
        ((∃ m ∈ members, m.name = name) ∨ required = false ∧ v = k.fallback) ∧
        rest.Shown vs members

end

/-- Once all members have been read, the record is complete. -/
theorem Fields.complete_shown : (fields : Fields) → (vs : fields.Carrier) →
    {members : List Member} → (shown : fields.Shown vs members) → (read : List String) →
    (all : ∀ m ∈ members, m.name ∈ read) → fields.complete (fields.filled vs read) = .ok vs
  | .nil, (), _, _, _, _ => rfl
  | .cons name required k rest, (v, vs), members, ⟨_, given, others⟩, read, all => by
    have complete := rest.complete_shown vs others read all
    by_cases known : name ∈ read
    · simp only [Fields.complete, filled, if_pos known, complete]
    · -- A field that was not read was not given.
      have absent : ¬∃ m ∈ members, m.name = name := by
        rintro ⟨m, member, rfl⟩
        exact known (all m member)
      obtain ⟨rfl, rfl⟩ := given.resolve_left absent
      simp [Fields.complete, filled, if_neg known, complete]

/-- Every member is read into its own slot, or passed over. -/
def Fields.SlotsRead (fields : Fields) (vs : fields.Carrier) (members : List Member)
    (room : Nat) : Prop :=
  ∀ {m : Member} {read : List String} {c : Cursor} {rest : Bytes},
    m ∈ members → (m.name ∈ fields.names → m.name ∉ read) → c.rest = m.body ++ rest → Stops rest →
      Yields (fields.readSlot m.name (fields.filled vs read) room c)
        (fields.filled vs (m.name :: read)) rest

theorem Fields.SlotsRead.all {fields : Fields} {vs : fields.Carrier} {members : List Member}
    {room : Nat} (slots : fields.SlotsRead vs members room) {ms : List Member}
    (part : ∀ m ∈ ms, m ∈ members)
    (once : ms.Pairwise fun m m' => m.name = m'.name → m.name ∉ fields.names)
    (read : List String) (fresh : ∀ m ∈ ms, m.name ∈ fields.names → m.name ∉ read) :
    MembersRead (fun key slots c => fields.readSlot key slots room c) (fields.filled vs read) ms
      (fields.filled vs ((ms.map Member.name).reverse ++ read)) := by
  induction ms generalizing read with
  | nil => exact .done _
  | cons m ms ih =>
    obtain ⟨apart, once⟩ := List.pairwise_cons.mp once
    refine .member (slots (part m List.mem_cons_self) (fresh m List.mem_cons_self)) ?_
    have others := ih (fun m member => part m (List.mem_cons_of_mem _ member)) once
      (m.name :: read) ?_
    · simpa using others
    · intro m' member known again
      rcases List.mem_cons.mp again with same | again
      · exact apart m' member same.symm (same ▸ known)
      · exact fresh m' (List.mem_cons_of_mem _ member) known again

theorem Kind.record_arranged (name : String) {fields : Fields} {vs : fields.Carrier} {room : Nat}
    {members : List Member} (orderly : fields.Orderly members) (shown : fields.Shown vs members)
    (slots : fields.SlotsRead vs members room) (g : Gap) :
    Written ((Kind.record name fields).read (room + 1)) vs
      (Utf8.encode (objectText g members)) := by
  rw [encode_objectText]
  refine ⟨⟨_, _, rfl, rfl, by decide⟩, ?_⟩
  intro c rest text stops
  simp only [List.cons_append, List.append_assoc] at text
  have peek := peek_cons text
  have all := slots.all (fun _ member => member) orderly.once [] (by simp)
  rw [fields.filled_none, List.append_nil] at all
  obtain ⟨c₁, read, text₁⟩ := readFields_members g all text
  obtain ⟨c₂, close, left⟩ := closeObject_end text₁
  have complete := fields.complete_shown vs shown (members.map Member.name).reverse
    fun m member => List.mem_reverse.mpr (List.mem_map_of_mem member)
  refine ⟨c₂, ?_, left⟩
  unfold Kind.read
  simp only [skipBlanks_of_peek peek rfl, peek, if_pos, withRoom, read, complete, close]

theorem Kind.list_arranged {k : Kind} {room : Nat} {items : List k.Carrier} {parts : List Spaced}
    (g : Gap)
    (written : List.Forall₂ (fun a s => Written (k.read room) a (Utf8.encode s.text)) items parts) :
    Written ((Kind.list k).read (room + 1)) items (Utf8.encode (listText g parts)) := by
  rw [encode_listText]
  refine ⟨⟨_, _, rfl, rfl, by decide⟩, ?_⟩
  intro c rest text stops
  simp only [List.cons_append, List.append_assoc] at text
  have peek := peek_cons text
  unfold Kind.read
  simp only [skipBlanks_of_peek peek rfl, peek, if_pos, withRoom]
  exact readList_spaced g written text

/-- An arranged document that is not the word for nothing does not begin like it. -/
theorem Kind.definite_arranged {k : Kind} {a : k.Carrier} {t : List Char} (definite : k.Definite)
    (proper : k.Proper a) (arranged : k.Arranged a t) : (Utf8.encode t).head? ≠ some 0x6E := by
  cases k with
  | optional k => cases definite
  | list k =>
    obtain ⟨g, parts, rfl, _⟩ := arranged
    rw [encode_listText]
    exact nofun
  | record name fields =>
    obtain ⟨g, members, rfl, _⟩ := arranged
    rw [encode_objectText]
    exact nofun
  | _ =>
    obtain rfl := arranged
    exact Kind.definite_render definite proper

mutual

/-- However a document is arranged, it is read back. -/
theorem Kind.arranged_written (k : Kind) (a : k.Carrier) {room : Nat} (proper : k.Proper a)
    (readable : k.Readable room a) {t : List Char} (arranged : k.Arranged a t) :
    Written (k.read room) a (Utf8.encode t) := by
  match k, a with
  | .optional k, none =>
    obtain rfl := arranged
    exact Kind.none_written
  | .optional k, some a =>
    have written : Written (k.read room) a (Utf8.encode t) :=
      k.arranged_written a proper.2 readable arranged
    exact Kind.some_written written (Kind.definite_arranged proper.1 proper.2 arranged)
  | .list k, items =>
    cases room with
    | zero => exact absurd readable.1 (Nat.lt_irrefl 0)
    | succ room =>
      obtain ⟨g, parts, rfl, each⟩ := arranged
      have within : List.Forall₂ (fun a s => a ∈ items ∧ k.Arranged a s.text) items parts :=
        (List.forall₂_and_left _ _).mpr ⟨fun _ member => member, each⟩
      exact Kind.list_arranged g (within.imp fun a s ⟨member, arranged⟩ =>
        k.arranged_written a (proper a member) (readable.2 a member) arranged)
  | .record name fields, vs =>
    cases room with
    | zero => exact absurd readable.1 (Nat.lt_irrefl 0)
    | succ room =>
      obtain ⟨g, members, rfl, orderly, shown⟩ := arranged
      exact Kind.record_arranged name orderly shown
        (fun member fresh text stops => fields.readSlot_arranged vs proper.1 proper.2 readable.2
          shown member (orderly.others _ member) fresh text stops) g
  | .text _, _ | .flag, _ | .natural _ _, _ | .integer, _ | .any, _ | .dict, _ | .choice _, _ =>
    -- All others stand as they are printed.
    obtain rfl := arranged
    exact Kind.written _ _ proper readable

/-- A member is read into its slot, or passed over if it is no field. -/
theorem Fields.readSlot_arranged (fields : Fields) (vs : fields.Carrier) {room : Nat}
    (different : fields.names.Nodup) (proper : fields.Proper vs)
    (readable : fields.Readable room vs) {members : List Member}
    (shown : fields.Shown vs members) {m : Member} (member : m ∈ members)
    (other : m.name ∉ fields.names → Skippable m.value.text) {read : List String}
    (fresh : m.name ∈ fields.names → m.name ∉ read) {c : Cursor} {rest : Bytes}
    (text : c.rest = m.body ++ rest) (stops : Stops rest) :
    Yields (fields.readSlot m.name (fields.filled vs read) room c)
      (fields.filled vs (m.name :: read)) rest := by
  obtain ⟨c₁, colon, text₁⟩ := m.readColon_body text
  match fields, vs with
  | .nil, () =>
    obtain ⟨c₂, skipped, left⟩ := skipValue_gap m.value.before (other List.not_mem_nil) text₁ stops
    refine ⟨c₂, ?_, left⟩
    simp only [Fields.readSlot, Fields.filled, colon, skipped]
  | .cons n required k others, (v, vs) =>
    obtain ⟨new, different⟩ := List.nodup_cons.mp different
    by_cases own : m.name = n
    · subst own
      have written := k.arranged_written v proper.1 readable.1 (shown.1 m member rfl)
      have begun := m.value.before.skip_begins written.begins text₁
      obtain ⟨c₂, value, left⟩ := written.yields begun stops
      rw [Kind.read_skipBlanks] at value
      refine ⟨c₂, ?_, left⟩
      simp only [Fields.readSlot, Fields.filled, if_pos, if_neg (fresh List.mem_cons_self), colon,
        value, List.mem_cons_self, others.filled_other vs new]
    · obtain ⟨c', slot, left⟩ := others.readSlot_arranged vs different proper.2 readable.2
        shown.2.2 member (fun none => other (by simp [Fields.names, own, none]))
        (fun known => fresh (List.mem_cons_of_mem _ known)) text stops
      refine ⟨c', ?_, left⟩
      simp only [Fields.readSlot, Fields.filled, if_neg own, slot, List.mem_cons,
        Ne.symm own, false_or]

end

/-! ## Whole texts -/

theorem Kind.parse_arranged {k : Kind} {a : k.Carrier} (proper : k.Proper a)
    (readable : k.Readable standardRoom a) (s : Spaced) (arranged : k.Arranged a s.text) :
    k.parse s.bytes = .ok a := by
  have written := k.arranged_written a proper readable arranged
  have text : (Cursor.start s.bytes).rest =
      s.before.bytes ++ (Utf8.encode s.text ++ (s.after.bytes ++ [])) := by
    rw [← s.bytes_append, List.append_nil]
    rfl
  have begun := s.before.skip_begins written.begins text
  obtain ⟨c, read, left⟩ := written.yields begun (s.after.stops stops_nil)
  rw [Kind.read_skipBlanks] at read
  have ended : c.skipBlanks.peek = none := by
    rw [Cursor.peek, skipBlanks_rest, left, s.after.dropWhile]
    rfl
  simp only [Kind.parse, Json.finish, read, ended]

/-! ## The printed arrangement -/

def Spaced.bare (t : List Char) : Spaced := ⟨.empty, t, .empty⟩

theorem Spaced.bare_chars (t : List Char) : (Spaced.bare t).chars = t := List.append_nil t

/-- The fields of a record as they are printed. -/
def Fields.members : (fields : Fields) → fields.Carrier → List Member
  | .nil, () => []
  | .cons name _ k rest, (v, vs) =>
      ⟨.empty, name, .empty, .bare (k.render v)⟩ :: rest.members vs

theorem Fields.members_names : (fields : Fields) → (vs : fields.Carrier) →
    (fields.members vs).map Member.name = fields.names
  | .nil, () => rfl
  | .cons name _ _ rest, (_, vs) => congrArg (name :: ·) (rest.members_names vs)

theorem Fields.members_chars : (fields : Fields) → (vs : fields.Carrier) →
    (fields.members vs).map Member.chars = fields.renderEntries vs
  | .nil, () => rfl
  | .cons name _ k rest, (v, vs) => by
    simp only [members, renderEntries, List.map_cons, rest.members_chars vs, Member.chars,
      Spaced.bare_chars]
    rfl

theorem Fields.members_orderly (fields : Fields) (vs : fields.Carrier)
    (different : fields.names.Nodup) : fields.Orderly (fields.members vs) := by
  rw [← fields.members_names vs, List.Nodup, List.pairwise_map] at different
  refine ⟨different.imp fun apart same => absurd same apart, ?_⟩
  intro m member unknown
  rw [← fields.members_names vs] at unknown
  exact absurd (List.mem_map_of_mem member) unknown

mutual

/-- The printed text of a document is one of its arrangements. -/
theorem Kind.arranged_render (k : Kind) (a : k.Carrier) (proper : k.Proper a) :
    k.Arranged a (k.render a) := by
  match k, a with
  | .optional k, none => rfl
  | .optional k, some a => exact k.arranged_render a proper.2
  | .list k, items =>
    refine ⟨.empty, items.map fun a => .bare (k.render a), ?_, ?_⟩
    · simp only [listText, List.map_map, Function.comp_def, Spaced.bare_chars]
      rfl
    · refine List.forall₂_map_right_iff.mpr (List.forall₂_same.mpr fun a member => ?_)
      exact k.arranged_render a (proper a member)
  | .record name fields, vs =>
    refine ⟨.empty, fields.members vs, ?_, fields.members_orderly vs proper.1, ?_⟩
    · rw [objectText, fields.members_chars]
      rfl
    · exact fields.shown_members vs proper.1 proper.2 (fun _ => id) fun _ member _ => member
  | .text _, _ | .flag, _ | .natural _ _, _ | .integer, _ | .any, _ | .dict, _ | .choice _, _ =>
    rfl

/-- The fields are shown by any list that has their members and no others of their names. -/
theorem Fields.shown_members (fields : Fields) (vs : fields.Carrier)
    (different : fields.names.Nodup) (proper : fields.Proper vs) {members : List Member}
    (all : ∀ m ∈ fields.members vs, m ∈ members)
    (only : ∀ m ∈ members, m.name ∈ fields.names → m ∈ fields.members vs) :
    fields.Shown vs members := by
  match fields, vs with
  | .nil, () => trivial
  | .cons name required k rest, (v, vs) =>
    obtain ⟨new, different⟩ := List.nodup_cons.mp different
    have elsewhere {m : Member} (later : m ∈ rest.members vs) : m.name ≠ name := by
      rintro rfl
      exact new (rest.members_names vs ▸ List.mem_map_of_mem later)
    refine ⟨?_, Or.inl ⟨_, all _ List.mem_cons_self, rfl⟩, ?_⟩
    · intro m member named
      have known : m.name ∈ name :: rest.names := named ▸ List.mem_cons_self
      rcases List.mem_cons.mp (only m member known) with rfl | later
      · exact k.arranged_render v proper.1
      · exact absurd named (elsewhere later)
    · refine rest.shown_members vs different proper.2
        (fun m member => all m (List.mem_cons_of_mem _ member)) fun m member known => ?_
      rcases List.mem_cons.mp (only m member (List.mem_cons_of_mem _ known)) with rfl | later
      · exact absurd known new
      · exact later

end

end NotebookKernel.Json
