import NotebookKernel.Proofs.Resplitting
import NotebookKernel.Proofs.Conversions

/-!
# Messages that are read back

A message comes back from its own frames unless one of its identities is the delimiter or its
documents have more brackets than may be open at once. No message that was read has either.
-/

namespace NotebookKernel

open Json Cursor

namespace Json

/-! ## Whole texts -/

theorem Kind.parse_render {k : Kind} {a : k.Carrier} (proper : k.Proper a)
    (readable : k.Readable standardRoom a) : k.parse (Utf8.encode (k.render a)) = .ok a :=
  (k.written a proper readable).finish

theorem parse_render_document {k : Kind} {a : k.Carrier} (proper : k.Proper a)
    (readable : k.Readable standardRoom a) :
    Json.parse (Utf8.encode (k.render a)) = .ok (k.toValue a) :=
  (k.value_written a proper readable).finish

theorem parse_render {v : Value} (readable : v.Readable standardRoom) :
    Json.parse (Utf8.encode v.render) = .ok v :=
  (v.written readable.ordered readable.integral readable.fits).finish

/-- What lists and objects inherit holds of every value that a text is read as. -/
theorem Inherited.parse {P : Nat → Value → Prop} (h : Inherited P) {bs : Bytes} {v : Value}
    (parsed : Kind.any.parse bs = .ok v) : P standardRoom v := by
  obtain ⟨c, read, _⟩ := finish_eq_ok parsed
  unfold Kind.read at read
  exact h.readValue read

theorem Inherited.parse_dict {P : Nat → Value → Prop} (h : Inherited P) {bs : Bytes} {d : Dict}
    (parsed : Kind.dict.parse bs = .ok d) : P standardRoom (.fields d) := by
  obtain ⟨c, read, _⟩ := finish_eq_ok parsed
  unfold Kind.read at read
  simp only at read
  split at read
  · cases read
  · split at read
    · cases room : standardRoom with
      | zero => cases room
      | succ n =>
        rw [room] at read
        exact h.readObject (fun _ _ => h.readValue) read
    · obtain ⟨f, other⟩ := readOther_error (α := Dict × Cursor) Kind.dict.wanted
        (Cursor.start bs).skipBlanks
      cases other.symm.trans read

end Json

namespace Header

theorem parse_render (h : Header) : parse (Utf8.encode h.render) = .ok h := by
  have none : ([] : Bytes).dropWhile isJsonBlank = [] := rfl
  simpa using h.parse_blank none

theorem ofValue_toValue (h : Header) : ofValue h.toValue = .ok h := by
  rw [ofValue, toValue, Kind.convert_toValue kind h.toCarrier h.proper]
  rfl

/-- A header is never the empty object. -/
theorem toValue_fields (h : Header) : ∃ e es, h.toValue = .fields (e :: es) := by
  have known : "msg_id" ∈ (Dict.ofList (Fields.toEntries _ h.toCarrier)).map Prod.fst :=
    Dict.name_mem_ofList List.mem_cons_self
  have shape : h.toValue = .fields (Dict.ofList (Fields.toEntries _ h.toCarrier)) := rfl
  rw [shape]
  cases entries : Dict.ofList (Fields.toEntries _ h.toCarrier) with
  | nil =>
    rw [entries] at known
    cases known
  | cons e es => exact ⟨e, es, rfl⟩

end Header

namespace Message

theorem parseParent_parentFrame (m : Message) : parseParent m.parentFrame = .ok m.parent := by
  cases parent : m.parent with
  | none =>
    have read : Json.parse m.parentFrame = .ok (.fields []) := by
      rw [parentFrame, parent]
      exact Json.parse_render (v := .fields []) ⟨⟨.nil, trivial⟩, trivial, by decide⟩
    rw [parseParent, read]
  | some p =>
    have read : Json.parse m.parentFrame = .ok p.toValue := by
      rw [parentFrame, parent]
      exact Json.parse_render_document p.proper p.readable
    obtain ⟨e, es, shape⟩ := p.toValue_fields
    have back := p.ofValue_toValue
    rw [shape] at read back
    rw [parseParent, read]
    simp only [back]

/-- What the encoder puts behind the identities. -/
def sealed (signer : Signer) (m : Message) : Envelope :=
  ⟨signer.sign m.signedFrames, m.headerFrame, m.parentFrame, m.metadataFrame, m.contentFrame,
    m.buffers⟩

theorem encode_sealed (signer : Signer) (m : Message) :
    m.encode signer = m.identities ++ delimiter :: (m.sealed signer).frames := by
  simp [encode, sealed, Envelope.frames, signedFrames]

theorem parseFrames_sealed {signer : Signer} {m : Message}
    (metadata : (Value.fields m.metadata).Readable standardRoom)
    (content : m.content.Readable standardRoom) :
    parseFrames (m.sealed signer) = .ok (m.header, m.parent, m.metadata, m.content) := by
  have first : Header.parse m.headerFrame = .ok m.header := m.header.parse_render
  have second := m.parseParent_parentFrame
  have third : Kind.dict.parse m.metadataFrame = .ok m.metadata :=
    Kind.parse_render (k := .dict) trivial metadata
  have fourth : Json.parse m.contentFrame = .ok m.content := Json.parse_render content
  simp only [parseFrames, sealed, first, second, third, fourth]

/-- Where the parts of a message that was read come from. -/
theorem decode_eq_ok {signer : Signer} {frames : List Bytes} {m : Message}
    (h : decode signer frames = .ok m) : ∃ e : Envelope, delimiter ∉ m.identities ∧
      frames = m.identities ++ delimiter :: e.frames ∧ m.buffers = e.buffers ∧
      Kind.dict.parse e.metadata = .ok m.metadata ∧ Kind.any.parse e.content = .ok m.content := by
  rcases frames_cases frames with ⟨x, _, none⟩ | ⟨identities, e, plain, rfl⟩
  · rw [none] at h
    cases h
  · rw [decode_framed plain] at h
    split at h
    · unfold Envelope.opened at h
      split at h
      · cases h
      · rename_i header parent metadata content parts
        cases h
        obtain ⟨fields, value, _, _, _, _, third, fourth⟩ := parseFrames_eq_ok parts
        exact ⟨e, plain, rfl, rfl, third, fourth⟩
    · cases h

/-- A message that was read has no delimiter among its identities, and its documents have no
more brackets than may be open at once. -/
theorem decode_fits {signer : Signer} {frames : List Bytes} {m : Message}
    (h : decode signer frames = .ok m) : delimiter ∉ m.identities ∧
      m.content.depth ≤ standardRoom ∧ (Value.fields m.metadata).depth ≤ standardRoom := by
  obtain ⟨e, plain, _, _, metadata, content⟩ := decode_eq_ok h
  exact ⟨plain, depth_inherited.parse content, depth_inherited.parse_dict metadata⟩

/-- Behind identities of which none is the delimiter, readable documents are read back. -/
theorem decode_sealed {signer : Signer} {m : Message} (plain : delimiter ∉ m.identities)
    (metadata : (Value.fields m.metadata).Readable standardRoom)
    (content : m.content.Readable standardRoom) : decode signer (m.encode signer) = .ok m := by
  have parts : parseFrames (m.sealed signer) = _ := parseFrames_sealed metadata content
  rw [encode_sealed, decode_signed plain rfl, Envelope.opened, parts]
  rfl

/-- A message without numbers other than whole ones, whose objects are in order as all objects
are, is read back from its own frames if and only if no identity is the delimiter and neither the
content nor the metadata, itself counted, has more than 127 brackets open at once. -/
theorem decode_encode_iff (key : Bytes) {m : Message}
    (ordered : (Value.fields m.metadata).Ordered ∧ m.content.Ordered)
    (integral : (Value.fields m.metadata).Integral ∧ m.content.Integral) :
    decode (.ofKey key) (m.encode (.ofKey key)) = .ok m ↔
      (∀ f ∈ m.identities, f ≠ delimiter) ∧ m.content.depth ≤ 127 ∧
        (Value.fields m.metadata).depth ≤ 127 := by
  constructor
  · intro h
    obtain ⟨plain, content, metadata⟩ := decode_fits h
    refine ⟨?_, content, metadata⟩
    rintro f member rfl
    exact plain member
  · rintro ⟨plain, content, metadata⟩
    have plain : delimiter ∉ m.identities := fun member => plain delimiter member rfl
    exact decode_sealed plain ⟨ordered.1, integral.1, metadata⟩ ⟨ordered.2, integral.2, content⟩

/-- A reply with a buffer that looks like the delimiter is read back. -/
theorem decode_encode_reply :
    let request : Header := ⟨"1", "ada", "s", "", "execute_request", "5.3"⟩
    let reply : Header := ⟨"2", "ada", "s", "", "execute_reply", "5.3"⟩
    let metadata : Dict := [("a", .int (-1)), ("b", .fields [])]
    let m : Message := ⟨[[0x69]], reply, some request, metadata, .array [.string "\n"], [delimiter]⟩
    decode (.ofKey [1]) (m.encode (.ofKey [1])) = .ok m := by
  intro request reply metadata m
  have names : "a" < "b" := by decide
  have sorted : metadata.Pairwise fun e f => e.1 < f.1 := List.pairwise_pair.mpr names
  have ordered : (Value.fields m.metadata).Ordered ∧ m.content.Ordered :=
    ⟨⟨sorted, trivial, ⟨.nil, trivial⟩, trivial⟩, trivial, trivial⟩
  have integral : (Value.fields m.metadata).Integral ∧ m.content.Integral :=
    ⟨⟨trivial, trivial, trivial⟩, trivial, trivial⟩
  have identities : ∀ f ∈ m.identities, f ≠ delimiter := by decide
  exact (decode_encode_iff [1] ordered integral).mpr ⟨identities, by decide, by decide⟩

end Message

end NotebookKernel
