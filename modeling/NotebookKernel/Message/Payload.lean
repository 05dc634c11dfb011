import NotebookKernel.Message.Reply

/-!
# Payloads that the kernel sends

One constructor for each type of outbound message. `Payload.content` writes the
content of a message, and `Payload.ofContent?` reads it back.
-/

namespace NotebookKernel

open Json

/-- The language that a kernel executes. -/
structure LanguageInfo where
  name : String
  version : String
  fileExtension : String
  mimetype : String
  deriving DecidableEq, Repr

namespace LanguageInfo

def kind : Kind :=
  .record "struct LanguageInfo"
    (.cons "name" true (.text "")
    (.cons "version" false (.text "")
    (.cons "file_extension" true (.text "")
    (.cons "mimetype" false (.text "") .nil))))

def ofCarrier : kind.Carrier → LanguageInfo
  | (name, version, fileExtension, mimetype, ()) => ⟨name, version, fileExtension, mimetype⟩

def toCarrier (l : LanguageInfo) : kind.Carrier :=
  (l.name, l.version, l.fileExtension, l.mimetype, ())

end LanguageInfo

/-- What a kernel tells about itself. -/
structure KernelInfo where
  status : String
  protocolVersion : String
  implementation : String
  implementationVersion : String
  language : LanguageInfo
  banner : String
  helpLinks : List Value

namespace KernelInfo

def kind : Kind :=
  .record "struct KernelInfoReply"
    (.cons "status" true (.text "")
    (.cons "protocol_version" true (.text "")
    (.cons "implementation" true (.text "")
    (.cons "implementation_version" true (.text "")
    (.cons "language_info" true LanguageInfo.kind
    (.cons "banner" true (.text "")
    (.cons "help_links" true (.list .any) .nil)))))))

def ofCarrier : kind.Carrier → KernelInfo
  | (status, protocolVersion, implementation, implementationVersion, language, banner, links, ()) =>
      ⟨status, protocolVersion, implementation, implementationVersion,
        LanguageInfo.ofCarrier language, banner, links⟩

def toCarrier (i : KernelInfo) : kind.Carrier :=
  (i.status, i.protocolVersion, i.implementation, i.implementationVersion,
    i.language.toCarrier, i.banner, i.helpLinks, ())

end KernelInfo

/-- Everything the kernel sends. -/
inductive Payload where
  | kernelInfo (info : KernelInfo)
  | executeReply (reply : ExecuteReply)
  | executeInput (code : String) (count : Int)
  | executeResult (count : Int) (data metadata : Dict)
  | error (count : Int) (failure : ErrorContent)
  | completeReply (reply : CompleteReply)
  | inspectReply (reply : InspectReply)
  | historyReply (outcome : String) (history : List Value)
  | shutdownReply (outcome : String) (restart : Bool)
  | status (busy : Bool)
  | stream (stderr : Bool) (text : String)

namespace Payload

/-- A note about progress, on standard output. -/
def progress (text : String) : Payload := .stream false text

/-- A history without entries. -/
def emptyHistory : Payload := .historyReply "ok" []

def shutdownOk (restart : Bool) : Payload := .shutdownReply "ok" restart

/-- The type that a message with this payload declares. -/
def msgType : Payload → String
  | .kernelInfo _ => "kernel_info_reply"
  | .executeReply _ => "execute_reply"
  | .executeInput _ _ => "execute_input"
  | .executeResult _ _ _ => "execute_result"
  | .error _ _ => "error"
  | .completeReply _ => "complete_reply"
  | .inspectReply _ => "inspect_reply"
  | .historyReply _ _ => "history_reply"
  | .shutdownReply _ _ => "shutdown_reply"
  | .status _ => "status"
  | .stream _ _ => "stream"

def executeInputKind : Kind :=
  .record "struct ExecuteInput"
    (.cons "code" true (.text "") (.cons "execution_count" true .integer .nil))

def executeResultKind : Kind :=
  .record "struct ExecuteResult"
    (.cons "execution_count" true .integer
    (.cons "data" true .dict (.cons "metadata" true .dict .nil)))

def historyKind : Kind :=
  .record "struct HistoryReply"
    (.cons "status" true (.text "") (.cons "history" true (.list .any) .nil))

def shutdownKind : Kind :=
  .record "struct ShutdownReply"
    (.cons "status" true (.text "") (.cons "restart" true .flag .nil))

def statusKind : Kind :=
  .record "struct Status" (.cons "execution_state" true (.choice ["busy", "idle"]) .nil)

def streamKind : Kind :=
  .record "struct Stream"
    (.cons "name" true (.choice ["stdout", "stderr"]) (.cons "text" true (.text "") .nil))

/-- The content of a message with this payload. -/
def content : Payload → Value
  | .kernelInfo i => KernelInfo.kind.toValue i.toCarrier
  | .executeReply r => r.content
  | .executeInput code count => executeInputKind.toValue (code, count, ())
  | .executeResult count data metadata => executeResultKind.toValue (count, data, metadata, ())
  | .error count failure => .object (Reply.countedEntries count failure)
  | .completeReply r => r.content
  | .inspectReply r => r.content
  | .historyReply outcome history => historyKind.toValue (outcome, history, ())
  | .shutdownReply outcome restart => shutdownKind.toValue (outcome, restart, ())
  | .status busy => statusKind.toValue (if busy then "busy" else "idle", ())
  | .stream stderr text => streamKind.toValue (if stderr then "stderr" else "stdout", text, ())

/-- The payload of a message of the given type; nothing for a type the kernel never sends. -/
def ofContent? (msgType : String) (v : Value) : Option (Except Mismatch Payload) :=
  if msgType = "kernel_info_reply" then
    some ((KernelInfo.kind.convert v).map fun i => .kernelInfo (KernelInfo.ofCarrier i))
  else if msgType = "execute_reply" then some ((ExecuteReply.ofContent v).map .executeReply)
  else if msgType = "execute_input" then
    some ((executeInputKind.convert v).map fun (code, count, ()) => .executeInput code count)
  else if msgType = "execute_result" then
    some ((executeResultKind.convert v).map fun (count, data, metadata, ()) =>
      .executeResult count data metadata)
  else if msgType = "error" then
    some ((Reply.convertCounted "struct ReplyError" v).map
      fun (count, failure) => .error count failure)
  else if msgType = "complete_reply" then some ((CompleteReply.ofContent v).map .completeReply)
  else if msgType = "inspect_reply" then some ((InspectReply.ofContent v).map .inspectReply)
  else if msgType = "history_reply" then
    some ((historyKind.convert v).map fun (outcome, history, ()) => .historyReply outcome history)
  else if msgType = "shutdown_reply" then
    some ((shutdownKind.convert v).map fun (outcome, restart, ()) => .shutdownReply outcome restart)
  else if msgType = "status" then
    some ((statusKind.convert v).map fun (state, ()) => .status (state == "busy"))
  else if msgType = "stream" then
    some ((streamKind.convert v).map fun (name, text, ()) => .stream (name == "stderr") text)
  else none

end Payload

end NotebookKernel
