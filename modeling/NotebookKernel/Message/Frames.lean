import NotebookKernel.Signature.Signer
import NotebookKernel.Message.Header
import NotebookKernel.Message.ProtocolError

/-!
# Messages as frames

A message travels as identities, a delimiter, a signature, four JSON frames and
buffers. `encode` writes the frames; `decode` checks, in this order, the delimiter,
the presence of the five frames, the signature, and then each JSON frame.
-/

namespace NotebookKernel

open Json

/-- A message apart from its framing. Without a parent the frame holds an empty object. -/
structure Message where
  identities : List Bytes
  header : Header
  parent : Option Header
  metadata : Dict
  content : Value
  buffers : List Bytes

namespace Message

/-- Equality of all parts. -/
def same (a b : Message) : Bool :=
  a.identities == b.identities && a.header == b.header && a.parent == b.parent &&
    Value.fields a.metadata == Value.fields b.metadata && a.content == b.content &&
    a.buffers == b.buffers

/-- The frame between the identities and the signature. -/
def delimiter : Bytes := utf8 "<IDS|MSG>"

def headerFrame (m : Message) : Bytes := Utf8.encode m.header.render

def parentFrame (m : Message) : Bytes :=
  match m.parent with
  | some p => Utf8.encode p.render
  | none => Utf8.encode ['\x7b', '\x7d']

def metadataFrame (m : Message) : Bytes := Utf8.encode (Value.fields m.metadata).render

def contentFrame (m : Message) : Bytes := Utf8.encode m.content.render

/-- The frames that the signature covers. -/
def signedFrames (m : Message) : List Bytes :=
  [m.headerFrame, m.parentFrame, m.metadataFrame, m.contentFrame]

def encode (signer : Signer) (m : Message) : List Bytes :=
  m.identities ++ delimiter :: signer.sign m.signedFrames :: m.signedFrames ++ m.buffers

/-- The frames before the first delimiter and those after it. -/
def splitFrames : List Bytes → Option (List Bytes × List Bytes)
  | [] => none
  | f :: fs =>
      if f = delimiter then some ([], fs)
      else (splitFrames fs).map fun (before, after) => (f :: before, after)

/-- The frames after the delimiter, by name. -/
structure Envelope where
  signature : Bytes
  header : Bytes
  parent : Bytes
  metadata : Bytes
  content : Bytes
  buffers : List Bytes

def envelope : List Bytes → Except ProtocolError Envelope
  | [] => .error (.missingFrame .signature)
  | [_] => .error (.missingFrame .header)
  | [_, _] => .error (.missingFrame .parentHeader)
  | [_, _, _] => .error (.missingFrame .metadata)
  | [_, _, _, _] => .error (.missingFrame .content)
  | s :: h :: p :: m :: c :: buffers => .ok ⟨s, h, p, m, c, buffers⟩

/-- The parent header: an empty object stands for none. -/
def parseParent (bs : Bytes) : Except Fault (Option Header) :=
  match Json.parse bs with
  | .error f => .error f
  | .ok (.fields []) => .ok none
  | .ok v =>
      match Header.ofValue v with
      | .ok h => .ok (some h)
      | .error m => .error (.mismatch m none)

/-- The four JSON frames, read in their order. -/
def parseFrames (e : Envelope) : Except Fault (Header × Option Header × Dict × Value) :=
  match Header.parse e.header with
  | .error f => .error f
  | .ok header =>
      match parseParent e.parent with
      | .error f => .error f
      | .ok parent =>
          match Kind.dict.parse e.metadata with
          | .error f => .error f
          | .ok metadata =>
              match Json.parse e.content with
              | .error f => .error f
              | .ok content => .ok (header, parent, metadata, content)

def decode (signer : Signer) (frames : List Bytes) : Except ProtocolError Message :=
  match splitFrames frames with
  | none => .error .missingDelimiter
  | some (identities, rest) =>
      match envelope rest with
      | .error e => .error e
      | .ok e =>
          if signer.verify e.signature [e.header, e.parent, e.metadata, e.content] then
            match parseFrames e with
            | .error f => .error (.json f)
            | .ok (header, parent, metadata, content) =>
                .ok ⟨identities, header, parent, metadata, content, e.buffers⟩
          else .error .badSignature

end Message

end NotebookKernel
