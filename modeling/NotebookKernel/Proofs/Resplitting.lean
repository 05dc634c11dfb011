import NotebookKernel.Proofs.SignatureGate
import NotebookKernel.Proofs.Documents

/-!
# Frames split elsewhere

A signature covers the bytes of four frames and not where one frame ends and the next begins.
Each of the first three must hold a text in brackets, so the four can as well be read from
their concatenation, one after another. What a message says therefore depends on these bytes
alone, wherever they are split.
-/

namespace NotebookKernel

namespace Json

open Cursor

/-! ## A document within a text -/

/-- Blanks before a document have no say. -/
theorem Kind.read_skipBlanks (k : Kind) (room : Nat) (c : Cursor) :
    k.read room c.skipBlanks = k.read room c := by
  cases k with
  | any =>
    unfold Kind.read readValue
    simp only [skipBlanks_skipBlanks]
  | _ =>
    unfold Kind.read
    simp only [skipBlanks_skipBlanks]

/-- A document that is read from a text of its own is read as well where that text stands between
blanks and more bytes, if it ends with its bracket or nothing follows. -/
theorem Kind.read_within {k : Kind} {bs more : Bytes} {a : k.Carrier} (h : k.parse bs = .ok a)
    (ends : k.Bracketed a ∨ more = []) {d : Cursor}
    (text : d.rest.dropWhile isJsonBlank = (bs ++ more).dropWhile isJsonBlank) :
    ∃ d', k.read standardRoom d = .ok (a, d') ∧
      d'.rest.dropWhile isJsonBlank = more.dropWhile isJsonBlank := by
  obtain ⟨c', read, blank⟩ := finish_eq_ok h
  rw [← Kind.read_skipBlanks] at read
  have begun : (Cursor.start bs).skipBlanks.rest ≠ [] := by
    intro ended
    obtain ⟨f, none⟩ := Kind.read_ended k standardRoom ended
    cases none.symm.trans read
  have longer : Extends more (Cursor.start bs).skipBlanks d.skipBlanks := by
    rw [skipBlanks_rest] at begun
    exact ⟨by rw [skipBlanks_rest, skipBlanks_rest, text]; exact (run_append (Or.inl begun)).2⟩
  have settled : Settled more c' ∨ k.Bracketed a := ends.symm.imp_left Or.inr
  obtain ⟨⟨_, d'⟩, read', rfl, after⟩ := Kind.read_mirrors k standardRoom longer _ read settled
  rw [Kind.read_skipBlanks] at read'
  refine ⟨d', read', ?_⟩
  rw [skipBlanks_rest] at blank
  rw [after.rest, List.dropWhile_append, if_pos (by simpa using blank)]

end Json

open Json Cursor

namespace Header

theorem proper (h : Header) : kind.Proper h.toCarrier :=
  ⟨by decide, trivial, trivial, trivial, trivial, trivial, trivial, trivial⟩

theorem readable (h : Header) : kind.Readable standardRoom h.toCarrier :=
  ⟨by decide, trivial, trivial, trivial, trivial, trivial, trivial, trivial⟩

/-- A printed header is read back if nothing but blanks follows. -/
theorem parse_blank (h : Header) {blanks : Bytes} (blank : blanks.dropWhile isJsonBlank = []) :
    parse (Utf8.encode h.render ++ blanks) = .ok h := by
  have written := kind.written h.toCarrier h.proper h.readable
  rw [parse, render, Kind.parse, written.finish_blank blank]
  rfl

end Header

namespace Message

/-! ## Four documents in one text -/

/-- The parent header that a value stands for. -/
def parentOf (v : Value) : Except Fault (Option Header) :=
  match v with
  | .fields [] => .ok none
  | v =>
      match Header.ofValue v with
      | .ok h => .ok (some h)
      | .error m => .error (.mismatch m none)

theorem parseParent_eq_ok {bs : Bytes} {parent : Option Header}
    (h : parseParent bs = .ok parent) :
    ∃ v, Kind.any.parse bs = .ok v ∧ parentOf v = .ok parent := by
  have any : Kind.any.parse bs = Json.parse bs := by
    unfold Kind.parse Kind.read
    rfl
  rw [any]
  unfold parseParent at h
  cases read : Json.parse bs with
  | error f =>
    rw [read] at h
    cases h
  | ok v =>
    rw [read] at h
    refine ⟨v, rfl, ?_⟩
    cases v with
    | fields entries =>
      cases entries with
      | nil => exact h
      | cons e es => exact h
    | _ => exact h

/-- No parent is read from a value that is not in brackets. -/
theorem parentOf_bracketed {v : Value} {parent : Option Header} (h : parentOf v = .ok parent) :
    v.Bracketed := by
  cases v with
  | array items => trivial
  | fields entries => trivial
  | _ => cases h

/-- Header, parent, metadata and content, read from one text one after another. -/
def parseTogether (bs : Bytes) : Except Fault (Header × Option Header × Dict × Value) := do
  let (header, c) ← Header.kind.read standardRoom (.start bs)
  let (parent, c) ← Kind.any.read standardRoom c
  let parent ← parentOf parent
  let (metadata, c) ← Kind.dict.read standardRoom c
  let (content, _) ← Kind.any.read standardRoom c
  .ok (Header.ofCarrier header, parent, metadata, content)

/-- What the four frames hold, each one read on its own. -/
theorem parseFrames_eq_ok {e : Envelope} {header : Header} {parent : Option Header}
    {metadata : Dict} {content : Value}
    (h : parseFrames e = .ok (header, parent, metadata, content)) :
    ∃ fields value, Header.kind.parse e.header = .ok fields ∧ Header.ofCarrier fields = header ∧
      Kind.any.parse e.parent = .ok value ∧ parentOf value = .ok parent ∧
      Kind.dict.parse e.metadata = .ok metadata ∧ Kind.any.parse e.content = .ok content := by
  unfold parseFrames at h
  split at h
  · cases h
  rename_i header' first
  split at h
  · cases h
  rename_i parent' second
  split at h
  · cases h
  rename_i metadata' third
  split at h
  · cases h
  rename_i content' fourth
  cases h
  obtain ⟨value, read, meant⟩ := parseParent_eq_ok second
  unfold Header.parse at first
  cases read' : Header.kind.parse e.header with
  | error f =>
    rw [read'] at first
    cases first
  | ok fields =>
    rw [read'] at first
    refine ⟨fields, value, rfl, Except.ok.inj first, read, meant, third, ?_⟩
    unfold Kind.parse Kind.read
    exact fourth

/-- What the four frames hold is read from their concatenation. -/
theorem parseFrames_together {e : Envelope} {parts : Header × Option Header × Dict × Value}
    (h : parseFrames e = .ok parts) : parseTogether e.signed.flatten = .ok parts := by
  obtain ⟨header, parent, metadata, content⟩ := parts
  obtain ⟨fields, value, first, rfl, second, meant, third, fourth⟩ := parseFrames_eq_ok h
  obtain ⟨c₁, read₁, text₁⟩ := Kind.read_within (d := .start e.signed.flatten) first
    (Or.inl trivial) rfl
  obtain ⟨c₂, read₂, text₂⟩ := Kind.read_within second (Or.inl (parentOf_bracketed meant)) text₁
  obtain ⟨c₃, read₃, text₃⟩ := Kind.read_within third (Or.inl trivial) text₂
  obtain ⟨c₄, read₄, _⟩ := Kind.read_within fourth (Or.inr rfl) text₃
  simp only [parseTogether, read₁, read₂, read₃, read₄, meant, bind, Except.bind]

/-! ## Signed bytes -/

/-- The bytes that the signature of a message covers. -/
def signedBytes (frames : List Bytes) : Bytes :=
  match splitFrames frames with
  | some (_, _ :: rest) => (rest.take 4).flatten
  | _ => []

theorem signedBytes_framed {identities : List Bytes} (plain : delimiter ∉ identities)
    (e : Envelope) : signedBytes (identities ++ delimiter :: e.frames) = e.signed.flatten := by
  rw [signedBytes, splitFrames_delimited plain]
  rfl

/-- What a decoded message says is read from the signed bytes. -/
theorem decode_together {signer : Signer} {frames : List Bytes} {m : Message}
    (h : decode signer frames = .ok m) :
    parseTogether (signedBytes frames) = .ok (m.header, m.parent, m.metadata, m.content) := by
  rcases frames_cases frames with ⟨x, _, none⟩ | ⟨identities, e, plain, rfl⟩
  · rw [none] at h
    cases h
  · rw [signedBytes_framed plain]
    rw [decode_framed plain] at h
    split at h
    · unfold Envelope.opened at h
      split at h
      · cases h
      · cases h
        exact parseFrames_together ‹_›
    · cases h

/-- Two lists of frames that are decoded with one key and have the same signed bytes, split
anywhere, hold the same header, parent, metadata and content. -/
theorem decode_resplit {key : Bytes} {frames frames' : List Bytes} {m m' : Message}
    (h : decode (.ofKey key) frames = .ok m) (h' : decode (.ofKey key) frames' = .ok m')
    (same : signedBytes frames = signedBytes frames') :
    m.header = m'.header ∧ m.parent = m'.parent ∧ m.metadata = m'.metadata ∧
      m.content = m'.content := by
  have parts := decode_together h
  rw [same, decode_together h'] at parts
  simp only [Except.ok.injEq, Prod.mk.injEq] at parts
  obtain ⟨header, parent, metadata, content⟩ := parts
  exact ⟨header.symm, parent.symm, metadata.symm, content.symm⟩

/-- A blank that moves from the second frame to the first one leaves the message as it is. -/
theorem decode_moved_blank :
    let header : Header := ⟨"1", "ada", "s", "", "execute_request", "5.3"⟩
    ∃ s s' m m',
      decode (.ofKey [1]) [delimiter, s, Utf8.encode header.render, utf8 " \x7b\x7d",
        utf8 "\x7b\x7d", utf8 "1"] = .ok m ∧
      decode (.ofKey [1]) [delimiter, s', Utf8.encode header.render ++ utf8 " ", utf8 "\x7b\x7d",
        utf8 "\x7b\x7d", utf8 "1"] = .ok m' ∧
      m.header = m'.header ∧ m.parent = m'.parent ∧ m.metadata = m'.metadata ∧
        m.content = m'.content := by
  intro header
  have plain : delimiter ∉ ([] : List Bytes) := List.not_mem_nil
  let signed (first second : Bytes) : Envelope :=
    ⟨(Signer.ofKey [1]).sign [first, second, utf8 "\x7b\x7d", utf8 "1"], first, second,
      utf8 "\x7b\x7d", utf8 "1", []⟩
  let m : Message := ⟨[], header, none, [], .int 1, []⟩
  have third : Kind.dict.parse (utf8 "\x7b\x7d") = .ok [] := rfl
  have fourth : Json.parse (utf8 "1") = .ok (.int 1) := by
    unfold Json.parse parseWithin readValue
    rfl
  have opened {first second : Bytes} (one : Header.parse first = .ok header)
      (two : Json.parse second = .ok (.fields [])) : (signed first second).opened [] = .ok m := by
    simp only [signed, m, Envelope.opened, parseFrames, parseParent, one, two, third, fourth]
  let e := signed (Utf8.encode header.render) (utf8 " \x7b\x7d")
  let e' := signed (Utf8.encode header.render ++ utf8 " ") (utf8 "\x7b\x7d")
  have bare : Header.parse (Utf8.encode header.render) = .ok header := by
    have none : ([] : Bytes).dropWhile isJsonBlank = [] := rfl
    simpa using header.parse_blank none
  have empty : Json.parse (utf8 " \x7b\x7d") = .ok (.fields []) := by
    unfold Json.parse parseWithin readValue
    rfl
  have empty' : Json.parse (utf8 "\x7b\x7d") = .ok (.fields []) := by
    unfold Json.parse parseWithin readValue
    rfl
  have h : decode (.ofKey [1]) ([] ++ delimiter :: e.frames) = .ok m :=
    (decode_signed plain rfl).trans (opened bare empty)
  have h' : decode (.ofKey [1]) ([] ++ delimiter :: e'.frames) = .ok m :=
    (decode_signed plain rfl).trans (opened (header.parse_blank rfl) empty')
  have same : signedBytes ([] ++ delimiter :: e.frames) =
      signedBytes ([] ++ delimiter :: e'.frames) := by
    have moved : utf8 " \x7b\x7d" = utf8 " " ++ utf8 "\x7b\x7d" := rfl
    rw [signedBytes_framed plain, signedBytes_framed plain]
    simp only [e, e', signed, Envelope.signed, moved, List.flatten_cons, List.append_assoc]
  exact ⟨_, _, m, m, h, h', decode_resplit h h' same⟩

end Message

end NotebookKernel
