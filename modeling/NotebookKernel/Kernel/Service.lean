import NotebookKernel.Kernel.Session

/-!
# Services

Each channel serves some types of requests. A request that is served is announced with
the status busy and closed with the status idle, whatever happens in between; one that
is not served leaves no trace.
-/

namespace NotebookKernel

inductive Service where
  | kernelInfo
  | execute
  | complete
  | inspect
  | history
  | shutdown
  deriving DecidableEq, Repr

namespace Service

/-- The type of the requests that are served. -/
def msgType : Service → String
  | kernelInfo => "kernel_info_request"
  | execute => "execute_request"
  | complete => "complete_request"
  | inspect => "inspect_request"
  | history => "history_request"
  | shutdown => "shutdown_request"

def offered : RequestChannel → List Service
  | .shell => [kernelInfo, execute, complete, inspect, history, shutdown]
  | .control => [kernelInfo, shutdown]

/-- The service for a type of requests, if the channel offers one. -/
def find? (channel : RequestChannel) (msgType : String) : Option Service :=
  (offered channel).find? fun s => s.msgType == msgType

end Service

/-- What the kernel tells about itself. -/
def KernelConfig.info (c : KernelConfig) : KernelInfo where
  status := "ok"
  protocolVersion := protocolVersion
  implementation := KernelConfig.implementation
  implementationVersion := KernelConfig.implementationVersion
  language := c.language
  banner := c.banner
  helpLinks := []

/-- Do a job between the status busy and the status idle. -/
def enveloped {α : Type} (r : Request) (job : Job α) : Job α := do
  .broadcast r (.status true)
  let a ← job
  .broadcast r (.status false)
  return a

/-- The content of the request is not what its type promises. -/
def unexpected (s : Service) (r : Request) : Verdict :=
  .error (.unexpectedContent s.msgType r.msgType)

/-- Replace the tooling and tell how that went. The kernel goes on serving. -/
def restartTooling {α : Type} (channel : RequestChannel) (r : Request) (prepare : Job α) :
    Job α := do
  let outcome ← .perform .restart
  let a ← prepare
  .reply channel r <| match outcome with
    | .ok _ => .shutdownOk true
    | .error _ => .shutdownReply "error" true
  return a

/-- Stop the tooling, say so, and ask the kernel to exit. -/
def shutDown (channel : RequestChannel) (r : Request) : Job Verdict := do
  match ← .perform .stop with
  | .crashed m => return .error (.handlerPanicked (crashText m))
  | .stopped =>
      .reply channel r (.shutdownOk false)
      .perform .leave
      return .ok ()

namespace Session

/-- Serve a request of the shell. -/
def serve (s : Session) (r : Request) : Service → Job (Session × Verdict)
  | .kernelInfo => do
      reply r (.kernelInfo s.config.info)
      return (s, .ok ())
  | .execute =>
      match r.content with
      | .execute code => s.execute r code
      | _ => return (s, unexpected .execute r)
  | .complete =>
      match r.content with
      | .complete code cursor => s.complete r code cursor
      | _ => return (s, unexpected .complete r)
  | .inspect =>
      match r.content with
      | .inspect code cursor _ => s.inspect r code cursor
      | _ => return (s, unexpected .inspect r)
  | .history => do
      reply r .emptyHistory
      return (s, .ok ())
  | .shutdown =>
      match r.content with
      | .shutdown true => do
          let s ← restartTooling .shell r s.sync
          return (s, .ok ())
      | .shutdown false => do
          let v ← shutDown .shell r
          return (s, v)
      | _ => return (s, unexpected .shutdown r)

/-- Process one request of the shell. -/
def process (s : Session) (r : Request) : Job (Session × Verdict) := do
  let s ← s.sync
  match Service.find? .shell r.msgType with
  | none => return (s, .ok ())
  | some service => enveloped r (s.serve r service)

end Session

namespace Control

/-- Serve a request of the control channel. -/
def serve (c : KernelConfig) (r : Request) : Service → Job Verdict
  | .kernelInfo => do
      .reply .control r (.kernelInfo c.info)
      return .ok ()
  | .shutdown =>
      match r.content with
      | .shutdown true => do
          restartTooling .control r (return ())
          return .ok ()
      | .shutdown false => shutDown .control r
      | _ => return unexpected .shutdown r
  | _ => return .ok ()

/-- Process one request of the control channel. -/
def process (c : KernelConfig) (r : Request) : Job Verdict :=
  match Service.find? .control r.msgType with
  | none => return .ok ()
  | some service => enveloped r (serve c r service)

end Control

end NotebookKernel
