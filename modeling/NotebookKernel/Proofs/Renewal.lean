import NotebookKernel.Proofs.RoundTrip

/-!
# Messages that are written anew

The frames of a message leave much freedom: blanks, escapes, the order of fields, fields that are
unknown or come twice, headers as arrays, signatures in either case. Once a message was read, its
own frames are the ones that it is written as from then on.
-/

namespace NotebookKernel.Message

open Json

/-- The objects of a message that was read are in order. -/
theorem decode_ordered {signer : Signer} {frames : List Bytes} {m : Message}
    (h : decode signer frames = .ok m) :
    (Value.fields m.metadata).Ordered ∧ m.content.Ordered := by
  obtain ⟨e, _, _, _, metadata, content⟩ := decode_eq_ok h
  exact ⟨ordered_inherited.parse_dict metadata, ordered_inherited.parse content⟩

/-- What was read as a message without numbers other than whole ones is written anew: the message
is read back from its own frames, which have the identities and the buffers of the frames it was
first read from, and whatever is read back has those very frames. -/
theorem decode_renewed (key : Bytes) {frames : List Bytes} {m : Message}
    (read : decode (.ofKey key) frames = .ok m)
    (integral : (Value.fields m.metadata).Integral ∧ m.content.Integral) :
    decode (.ofKey key) (m.encode (.ofKey key)) = .ok m ∧
      (∃ (identities : List Bytes) (old fresh : Envelope), delimiter ∉ identities ∧
        frames = identities ++ delimiter :: old.frames ∧
        m.encode (.ofKey key) = identities ++ delimiter :: fresh.frames ∧
        fresh.buffers = old.buffers) ∧
      ∀ m', decode (.ofKey key) (m.encode (.ofKey key)) = .ok m' →
        m'.encode (.ofKey key) = m.encode (.ofKey key) := by
  obtain ⟨old, plain, parts, buffers, _, _⟩ := decode_eq_ok read
  obtain ⟨_, content, metadata⟩ := decode_fits read
  obtain ⟨inOrder, inOrder'⟩ := decode_ordered read
  have back : decode (.ofKey key) (m.encode (.ofKey key)) = .ok m :=
    decode_sealed plain ⟨inOrder, integral.1, metadata⟩ ⟨inOrder', integral.2, content⟩
  refine ⟨back, ⟨m.identities, old, m.sealed (.ofKey key), plain, parts, ?_, buffers⟩, ?_⟩
  · exact encode_sealed (.ofKey key) m
  · intro m' again
    cases back.symm.trans again
    rfl

/-- Blanks in the documents, no signature, and a buffer that looks like the delimiter are written
anew without the blanks and with the buffer. -/
theorem untidy_renewed :
    let header : Header := ⟨"1", "ada", "s", "", "execute_request", "5.3"⟩
    let m : Message := ⟨[[0x69]], header, none, [], .int 1, [delimiter]⟩
    ∃ frames, decode (.ofKey []) frames = .ok m ∧ frames ≠ m.encode (.ofKey []) ∧
      decode (.ofKey []) (m.encode (.ofKey [])) = .ok m := by
  intro header m
  have plain : delimiter ∉ [[0x69]] := by decide
  let e : Envelope := ⟨[0x3F], Utf8.encode header.render ++ utf8 " ", utf8 "\x7b\x7d",
    utf8 "\x7b \x7d", utf8 " 1 ", [delimiter]⟩
  have first : Header.parse e.header = .ok header := header.parse_blank rfl
  have second : Json.parse e.parent = .ok (.fields []) := by
    unfold Json.parse parseWithin readValue
    rfl
  have third : Kind.dict.parse e.metadata = .ok [] := rfl
  have fourth : Json.parse e.content = .ok (.int 1) := by
    unfold Json.parse parseWithin readValue
    rfl
  have opened : e.opened [[0x69]] = .ok m := by
    simp only [m, e, Envelope.opened, parseFrames, parseParent, first, second, third, fourth]
  have read : decode (.ofKey []) ([[0x69]] ++ delimiter :: e.frames) = .ok m :=
    (decode_unsigned_framed plain e).trans opened
  have integral : (Value.fields m.metadata).Integral ∧ m.content.Integral :=
    ⟨trivial, trivial⟩
  refine ⟨_, read, fun same => ?_, (decode_renewed [] read integral).1⟩
  have sixth : some e.content = some m.contentFrame := congrArg (fun frames => frames[6]?) same
  exact absurd (Option.some.inj sixth) (by decide)

end NotebookKernel.Message
