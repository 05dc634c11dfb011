import NotebookKernel.Message.Frames
import NotebookKernel.Proofs.Encoding

/-!
# The signature as a gate

Without a key a message is read from its frames alone. With a key the same reading stands
behind a gate: first the frames must be there, then the signature must be the one that the
key gives, and only then is anything read.
-/

namespace NotebookKernel

/-- Equal texts, but for the case of ASCII letters. -/
def SameUpToCase (a b : Bytes) : Prop := a.map Hex.smallLetter = b.map Hex.smallLetter

instance (a b : Bytes) : Decidable (SameUpToCase a b) :=
  inferInstanceAs (Decidable (a.map Hex.smallLetter = b.map Hex.smallLetter))

/-- The delimiter or a frame after it is missing. -/
def ProtocolError.IsFraming : ProtocolError → Prop
  | .missingDelimiter => True
  | .missingFrame _ => True
  | _ => False

namespace Signer

theorem ofKey_of_ne {key : Bytes} (some_key : key ≠ []) : ofKey key = .keyed key :=
  if_neg some_key

/-- A signature is accepted just when it is the one that the key gives, in either case. -/
theorem verify_keyed (key signature : Bytes) (parts : List Bytes) :
    (Signer.keyed key).verify signature parts = true ↔
      SameUpToCase signature ((Signer.keyed key).sign parts) := by
  have digits := Hex.decode?_eq_some signature (Hmac.mac key parts.flatten)
  rw [SameUpToCase, sign, Hex.smallLetter_encode, ← digits, verify, signatureDigits]
  cases Hex.decode? (signature.map fun b => Char.ofNat b.toNat) with
  | none => simp
  | some bs => simp

/-- What a signer writes it accepts. -/
theorem verify_sign (s : Signer) (parts : List Bytes) : s.verify (s.sign parts) parts = true := by
  cases s with
  | unsigned => rfl
  | keyed key => exact (verify_keyed key _ parts).mpr rfl

end Signer

namespace Message

/-! ## Frames -/

/-- The frames of an envelope, in their order. -/
def Envelope.frames (e : Envelope) : List Bytes :=
  e.signature :: e.header :: e.parent :: e.metadata :: e.content :: e.buffers

/-- The frames of an envelope that the signature covers. -/
def Envelope.signed (e : Envelope) : List Bytes := [e.header, e.parent, e.metadata, e.content]

theorem splitFrames_delimited {before : List Bytes} (plain : delimiter ∉ before)
    (after : List Bytes) :
    splitFrames (before ++ delimiter :: after) = some (before, after) := by
  induction before with
  | nil => simp [splitFrames]
  | cons f fs ih =>
    have other : f ≠ delimiter := fun h => plain (by simp [h])
    rw [List.cons_append, splitFrames, if_neg other, ih fun h => plain (List.mem_cons_of_mem f h)]
    rfl

theorem splitFrames_eq_some {frames before after : List Bytes}
    (split : splitFrames frames = some (before, after)) :
    delimiter ∉ before ∧ frames = before ++ delimiter :: after := by
  induction frames generalizing before with
  | nil => cases split
  | cons f fs ih =>
    rw [splitFrames] at split
    by_cases found : f = delimiter
    · rw [if_pos found] at split
      cases split
      exact ⟨List.not_mem_nil, by rw [found]; rfl⟩
    · rw [if_neg found] at split
      obtain ⟨⟨before', after'⟩, split', same⟩ := Option.map_eq_some_iff.mp split
      cases same
      obtain ⟨plain, eq⟩ := ih split'
      refine ⟨?_, by rw [eq]; rfl⟩
      rw [List.mem_cons]
      rintro (h | h)
      · exact found h.symm
      · exact plain h

@[simp] theorem envelope_frames (e : Envelope) : envelope e.frames = .ok e := rfl

/-- Either all frames are there or one is missing, whatever their bytes. -/
theorem envelope_cases (frames : List Bytes) :
    (∃ e : Envelope, frames = e.frames) ∨
      ∃ name, envelope frames = .error (.missingFrame name) := by
  match frames with
  | [] => exact Or.inr ⟨_, rfl⟩
  | [_] => exact Or.inr ⟨_, rfl⟩
  | [_, _] => exact Or.inr ⟨_, rfl⟩
  | [_, _, _] => exact Or.inr ⟨_, rfl⟩
  | [_, _, _, _] => exact Or.inr ⟨_, rfl⟩
  | s :: h :: p :: m :: c :: buffers => exact Or.inl ⟨⟨s, h, p, m, c, buffers⟩, rfl⟩

/-! ## Reading behind the gate -/

/-- What the frames hold, read without a look at the signature. -/
def Envelope.opened (identities : List Bytes) (e : Envelope) : Except ProtocolError Message :=
  match parseFrames e with
  | .error f => .error (.json f)
  | .ok (header, parent, metadata, content) =>
      .ok ⟨identities, header, parent, metadata, content, e.buffers⟩

theorem Envelope.opened_error {identities : List Bytes} {e : Envelope} {x : ProtocolError}
    (h : e.opened identities = .error x) : ∃ f, x = .json f := by
  unfold opened at h
  split at h
  · cases h
    exact ⟨_, rfl⟩
  · cases h

section Decode

variable {identities : List Bytes} (plain : delimiter ∉ identities)

include plain

/-- The gate stands before the reading. -/
theorem decode_framed (signer : Signer) (e : Envelope) :
    decode signer (identities ++ delimiter :: e.frames) =
      if signer.verify e.signature e.signed then e.opened identities else .error .badSignature := by
  simp only [decode, splitFrames_delimited plain, envelope_frames]
  rfl

theorem decode_missing (signer : Signer) {rest : List Bytes} {name : FrameName}
    (missing : envelope rest = .error (.missingFrame name)) :
    decode signer (identities ++ delimiter :: rest) = .error (.missingFrame name) := by
  simp only [decode, splitFrames_delimited plain, missing]

end Decode

/-- Frames either lack something, and then every signer says so alike, or hold an envelope. -/
theorem frames_cases (frames : List Bytes) :
    (∃ x : ProtocolError, x.IsFraming ∧ ∀ signer, decode signer frames = .error x) ∨
      ∃ identities e, delimiter ∉ identities ∧
        frames = identities ++ delimiter :: Envelope.frames e := by
  cases split : splitFrames frames with
  | none => exact Or.inl ⟨.missingDelimiter, trivial, fun signer => by simp only [decode, split]⟩
  | some parts =>
    obtain ⟨identities, rest⟩ := parts
    obtain ⟨plain, rfl⟩ := splitFrames_eq_some split
    rcases envelope_cases rest with ⟨e, rfl⟩ | ⟨name, missing⟩
    · exact Or.inr ⟨identities, e, plain, rfl⟩
    · exact Or.inl ⟨.missingFrame name, trivial, fun signer => decode_missing plain signer missing⟩

/-- A message signed with the key is read. -/
theorem decode_signed {identities : List Bytes} (plain : delimiter ∉ identities) {signer : Signer}
    {e : Envelope} (signed : e.signature = signer.sign e.signed) :
    decode signer (identities ++ delimiter :: e.frames) = e.opened identities := by
  rw [decode_framed plain, signed]
  exact if_pos (signer.verify_sign e.signed)

/-- Nothing about the frames is wrong once they hold an envelope. -/
theorem decode_unsigned_framed {identities : List Bytes} (plain : delimiter ∉ identities)
    (e : Envelope) :
    decode (.ofKey []) (identities ++ delimiter :: e.frames) = e.opened identities := by
  rw [decode_framed plain]
  exact if_pos rfl

/-- Without a key the signature frame may hold anything. -/
theorem decode_unsigned_any_signature {identities : List Bytes} (plain : delimiter ∉ identities)
    (s t : Bytes) (rest : List Bytes) :
    decode (.ofKey []) (identities ++ delimiter :: s :: rest) =
      decode (.ofKey []) (identities ++ delimiter :: t :: rest) := by
  match rest with
  | [] => rw [decode_missing plain _ rfl, decode_missing plain _ rfl]
  | [_] => rw [decode_missing plain _ rfl, decode_missing plain _ rfl]
  | [_, _] => rw [decode_missing plain _ rfl, decode_missing plain _ rfl]
  | [_, _, _] => rw [decode_missing plain _ rfl, decode_missing plain _ rfl]
  | h :: p :: m :: c :: buffers =>
    have first := decode_unsigned_framed plain ⟨s, h, p, m, c, buffers⟩
    have second := decode_unsigned_framed plain ⟨t, h, p, m, c, buffers⟩
    exact first.trans second.symm

/-- Decoding with a key is decoding without one behind a gate. Missing frames are reported alike.
Otherwise a signature that is the right one, in either case, leaves the result as it is without a
key, and any other signature is refused whatever the frames hold. Without a key the signature
has no say. -/
theorem decode_keyed {key : Bytes} (some_key : key ≠ []) (frames : List Bytes) :
    (∀ x : ProtocolError, x.IsFraming → decode (.ofKey []) frames = .error x →
      decode (.ofKey key) frames = .error x) ∧
    ((∀ x : ProtocolError, x.IsFraming → decode (.ofKey []) frames ≠ .error x) →
      ∃ identities s h p m c buffers, delimiter ∉ identities ∧
        frames = identities ++ delimiter :: s :: h :: p :: m :: c :: buffers ∧
        (SameUpToCase s ((Signer.ofKey key).sign [h, p, m, c]) →
          decode (.ofKey key) frames = decode (.ofKey []) frames) ∧
        (¬SameUpToCase s ((Signer.ofKey key).sign [h, p, m, c]) →
          decode (.ofKey key) frames = .error .badSignature)) ∧
    ∀ identities s t rest, delimiter ∉ identities →
      decode (.ofKey []) (identities ++ delimiter :: s :: rest) =
        decode (.ofKey []) (identities ++ delimiter :: t :: rest) := by
  refine ⟨?framing, ?gate, fun _ s t rest plain => decode_unsigned_any_signature plain s t rest⟩
  case framing =>
    intro x framing reported
    rcases frames_cases frames with ⟨y, _, same⟩ | ⟨identities, e, plain, rfl⟩
    · rw [same] at reported ⊢
      exact reported
    · rw [decode_unsigned_framed plain] at reported
      obtain ⟨f, rfl⟩ := Envelope.opened_error reported
      exact framing.elim
  case gate =>
    intro complete
    rcases frames_cases frames with ⟨y, framing, same⟩ | ⟨identities, e, plain, rfl⟩
    · exact absurd (same _) (complete y framing)
    · have gate := decode_framed plain (.keyed key) e
      have opened := decode_unsigned_framed plain e
      refine ⟨identities, e.signature, e.header, e.parent, e.metadata, e.content, e.buffers, plain,
        rfl, ?_, ?_⟩
      · intro right
        rw [Signer.ofKey_of_ne some_key] at right ⊢
        rw [opened, gate]
        exact if_pos ((Signer.verify_keyed key _ _).mpr right)
      · intro wrong
        rw [Signer.ofKey_of_ne some_key] at wrong ⊢
        rw [gate]
        exact if_neg fun accepted => wrong ((Signer.verify_keyed key _ _).mp accepted)

/-- A frame that is missing is reported before a signature that is wrong. -/
theorem decode_keyed_missing_header :
    ([1] : Bytes) ≠ [] ∧
      decode (.ofKey [1]) [delimiter, [0xFF]] = .error (.missingFrame .header) :=
  have some_key : ([1] : Bytes) ≠ [] := by decide
  ⟨some_key, (decode_keyed some_key [delimiter, [0xFF]]).1 _ trivial
    (decode_missing (List.not_mem_nil (a := delimiter)) _ rfl)⟩

end Message

end NotebookKernel
