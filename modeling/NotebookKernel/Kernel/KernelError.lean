import NotebookKernel.Message.ProtocolError
import NotebookKernel.Tooling.ToolingError
import NotebookKernel.Channel.Endpoint

/-!
# Failures of the kernel
-/

namespace NotebookKernel

inductive KernelError where
  | tooling (error : ToolingError)
  | protocol (error : ProtocolError)
  | channelBind (failures : List BindFailure)
  | lifecycle (error : LifecycleError)
  | handlerPanicked (text : String)
  | unexpectedContent (expected found : String)
  deriving DecidableEq

def KernelError.message : KernelError → String
  | .tooling e => "tooling error: " ++ e.message
  | .protocol e => "protocol error: " ++ e.message
  | .channelBind failures => bindMessage failures
  | .lifecycle e => e.message
  | .handlerPanicked text => "handler panicked: " ++ text
  | .unexpectedContent expected found =>
      "handler for " ++ expected ++ " received " ++ found ++ " content"

/-- How handling a request ends. -/
abbrev Verdict := Except KernelError Unit

end NotebookKernel
