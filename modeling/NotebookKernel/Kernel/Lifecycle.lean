/-!
# The lifecycle of a kernel

Five states and the moves between them. A rejected move leaves the state as it is.
-/

namespace NotebookKernel

inductive Lifecycle where
  | uninitialized
  | starting
  | running
  | restarting
  | stopped
  deriving DecidableEq, Repr

namespace Lifecycle

/-- May the kernel move from one state to the other? -/
def allows : Lifecycle → Lifecycle → Bool
  | uninitialized, starting => true
  | uninitialized, stopped => true
  | starting, running => true
  | starting, stopped => true
  | running, restarting => true
  | running, stopped => true
  | restarting, running => true
  | restarting, stopped => true
  | stopped, restarting => true
  | _, _ => false

def text : Lifecycle → String
  | uninitialized => "uninitialized"
  | starting => "starting"
  | running => "running"
  | restarting => "restarting"
  | stopped => "stopped"

def all : List Lifecycle := [uninitialized, starting, running, restarting, stopped]

def ofText? (s : String) : Option Lifecycle := all.find? fun l => l.text == s

end Lifecycle

/-- A move that the lifecycle does not allow. -/
structure LifecycleError where
  origin : Lifecycle
  target : Lifecycle
  deriving DecidableEq, Repr

def LifecycleError.message (e : LifecycleError) : String :=
  "invalid lifecycle transition " ++ e.origin.text ++ " -> " ++ e.target.text

/-- The state after a move, or why the move is rejected. -/
def Lifecycle.transition (l target : Lifecycle) : Except LifecycleError Lifecycle :=
  if l.allows target then .ok target else .error ⟨l, target⟩

end NotebookKernel
