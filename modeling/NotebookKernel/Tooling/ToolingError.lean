import NotebookKernel.Text.Duration
import NotebookKernel.Kernel.Lifecycle

/-!
# Failures of a tooling session

What the tooling reports about itself or about a cell, the sentence shown for it,
and the name under which an execution reports it.
-/

namespace NotebookKernel

inductive ToolingError where
  | compile (text : String)
  | run (text : String)
  | unavailable (text : String)
  | missingModule (sequence : Int)
  | start (text : String)
  | disposeTimeout (limit : Duration)
  | notRunning
  | lifecycle (error : LifecycleError)
  deriving DecidableEq, Repr

namespace ToolingError

def message : ToolingError → String
  | compile text => text
  | run text => text
  | unavailable text => "tooling unavailable: " ++ text
  | missingModule n => s!"cell {n} has no module declaration"
  | start text => "failed to start tooling session: " ++ text
  | disposeTimeout limit => "tooling session did not exit within " ++ limit.text
  | notRunning => "no tooling session is running"
  | lifecycle e => e.message

/-- The name of the error in an execute reply. -/
def name : ToolingError → String
  | compile _ => "Compilation Error"
  | run _ => "Runtime Error"
  | missingModule _ => "Missing Module"
  | notRunning => "Kernel Not Running"
  | lifecycle _ => "Kernel Not Running"
  | unavailable _ => "Tooling Error"
  | start _ => "Tooling Error"
  | disposeTimeout _ => "Tooling Error"

end ToolingError

end NotebookKernel
