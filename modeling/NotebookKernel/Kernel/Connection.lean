import NotebookKernel.Json.Kind
import NotebookKernel.Message.ProtocolError
import NotebookKernel.Signature.Signer
import NotebookKernel.Channel.Endpoint

/-!
# Connection descriptors

The file that a front-end writes before it launches a kernel: where to listen and
how to sign.
-/

namespace NotebookKernel

open Json

structure ConnectionInfo where
  transport : String
  ip : String
  signatureScheme : String
  key : String
  heartbeatPort : Nat
  shellPort : Nat
  controlPort : Nat
  iopubPort : Nat
  stdinPort : Option Nat
  kernelName : Option String
  deriving DecidableEq, Repr

namespace ConnectionInfo

def portKind : Kind := .natural "u16" 65535

def kind : Kind :=
  .record "struct ConnectionInfo"
    (.cons "transport" false (.text "tcp")
    (.cons "ip" true (.text "")
    (.cons "signature_scheme" false (.text "")
    (.cons "key" false (.text "")
    (.cons "hb_port" true portKind
    (.cons "shell_port" true portKind
    (.cons "control_port" true portKind
    (.cons "iopub_port" true portKind
    (.cons "stdin_port" false (.optional portKind)
    (.cons "kernel_name" false (.optional (.text "")) .nil))))))))))

def ofCarrier : kind.Carrier → ConnectionInfo
  | (transport, ip, scheme, key, hb, shell, control, iopub, stdin, name, ()) =>
      ⟨transport, ip, scheme, key, hb, shell, control, iopub, stdin, name⟩

def toCarrier (c : ConnectionInfo) : kind.Carrier :=
  (c.transport, c.ip, c.signatureScheme, c.key, c.heartbeatPort, c.shellPort, c.controlPort,
    c.iopubPort, c.stdinPort, c.kernelName, ())

def toValue (c : ConnectionInfo) : Value := kind.toValue c.toCarrier

def render (c : ConnectionInfo) : List Char := kind.render c.toCarrier

/-- The descriptor in a file with the given path and content. -/
def ofFile (path : String) (content : Except FileFault Bytes) :
    Except ProtocolError ConnectionInfo :=
  match content with
  | .error f => .error (.connectionFile path f)
  | .ok bs =>
      match Utf8.decode bs with
      | .error _ => .error (.connectionFile path .notUtf8)
      | .ok _ =>
          match kind.parse bs with
          | .error f => .error (.json f)
          | .ok c => .ok (ofCarrier c)

def endpoint (c : ConnectionInfo) (port : Nat) : String :=
  c.transport ++ "://" ++ c.ip ++ ":" ++ toString port

def endpoints (c : ConnectionInfo) : Endpoints :=
  ⟨c.endpoint c.heartbeatPort, c.endpoint c.shellPort, c.endpoint c.controlPort,
    c.endpoint c.iopubPort⟩

/-- Without a key the scheme does not matter; with one, only HMAC-SHA256 is known. -/
def signer (c : ConnectionInfo) : Except ProtocolError Signer :=
  if c.key = "" then .ok .unsigned
  else if c.signatureScheme = "hmac-sha256" ∨ c.signatureScheme = "" then
    .ok (Signer.ofKey (utf8 c.key))
  else .error (.unsupportedScheme c.signatureScheme)

end ConnectionInfo

end NotebookKernel
