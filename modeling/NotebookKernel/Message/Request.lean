import NotebookKernel.Message.Frames

/-!
# Requests

The content of a request, checked against the type that its header declares. A
type that no handler serves keeps its content as it is.
-/

namespace NotebookKernel

open Json

inductive RequestContent where
  | kernelInfo
  | execute (code : String)
  | complete (code : String) (cursor : Nat)
  | inspect (code : String) (cursor : Nat) (detail : Nat)
  | history (access : Option String)
  | shutdown (restart : Bool)
  | other (content : Value)

namespace RequestContent

/-- Offsets are counted in characters and fit 64 bits. -/
def offsetKind : Kind := .natural "usize" (UInt64.size - 1)

def executeKind : Kind :=
  .record "struct ExecuteRequest" (.cons "code" true (.text "") .nil)

def completeKind : Kind :=
  .record "struct CompleteRequest"
    (.cons "code" true (.text "") (.cons "cursor_pos" true offsetKind .nil))

def inspectKind : Kind :=
  .record "struct InspectRequest"
    (.cons "code" true (.text "")
    (.cons "cursor_pos" true offsetKind
    (.cons "detail_level" false (.natural "u8" 255) .nil)))

def historyKind : Kind :=
  .record "struct HistoryRequest"
    (.cons "hist_access_type" false (.optional (.text "")) .nil)

def shutdownKind : Kind :=
  .record "struct ShutdownRequest" (.cons "restart" false .flag .nil)

/-- Content of the declared type. -/
def ofValue (msgType : String) (v : Value) : Except Mismatch RequestContent :=
  if msgType = "kernel_info_request" then .ok .kernelInfo
  else if msgType = "execute_request" then
    (executeKind.convert v).map fun (code, ()) => .execute code
  else if msgType = "complete_request" then
    (completeKind.convert v).map fun (code, cursor, ()) => .complete code cursor
  else if msgType = "inspect_request" then
    (inspectKind.convert v).map fun (code, cursor, detail, ()) => .inspect code cursor detail
  else if msgType = "history_request" then
    (historyKind.convert v).map fun (access, ()) => .history access
  else if msgType = "shutdown_request" then
    (shutdownKind.convert v).map fun (restart, ()) => .shutdown restart
  else .ok (.other v)

/-- Content of the declared type, or the reason why it is none. -/
def decode (msgType : String) (v : Value) : Except ProtocolError RequestContent :=
  match ofValue msgType v with
  | .ok c => .ok c
  | .error m => .error (.content msgType m)

end RequestContent

structure Request where
  identities : List Bytes
  header : Header
  metadata : Dict
  content : RequestContent

namespace Request

/-- A message whose content fits its type. -/
def ofMessage (m : Message) : Except ProtocolError Request :=
  match RequestContent.decode m.header.msgType m.content with
  | .ok content => .ok ⟨m.identities, m.header, m.metadata, content⟩
  | .error e => .error e

def msgType (r : Request) : String := r.header.msgType

def msgId (r : Request) : String := r.header.msgId

end Request

end NotebookKernel
