import NotebookKernel.Channel.Emission
import NotebookKernel.Tooling.Flight

/-!
# Jobs

What a handler does, as a tree: either it is done, or it acts and goes on according to
the answer. The tree does not say who answers, so the same handler can be run by a clock
or confronted with every answer there is.
-/

namespace NotebookKernel

inductive Action where
  /-- Look up the generation of the last session. -/
  | generation
  /-- Look up the live session. -/
  | lease
  /-- Restart the tooling, or join the restart on its way, and wait for its outcome. -/
  | restart
  /-- Stop the tooling. -/
  | stop
  | call (c : ToolingCall)
  | emit (e : Emission)
  /-- Ask the kernel to exit, once the time to linger has passed. -/
  | leave

namespace Action

@[reducible] def Answer : Action → Type
  | generation => Nat
  | lease => Option Lease
  | restart => FlightOutcome
  | stop => StopOutcome
  | call c => c.Answer
  | emit _ => Unit
  | leave => Unit

end Action

inductive Job (α : Type) : Type where
  | done (result : α)
  | act (action : Action) (next : action.Answer → Job α)

namespace Job

variable {α β : Type}

/-- Do one job, and then the job that its result calls for. -/
def bind : Job α → (α → Job β) → Job β
  | done a, f => f a
  | act a next, f => act a fun x => (next x).bind f

def map (f : α → β) (j : Job α) : Job β := j.bind fun a => done (f a)

instance : Monad Job where
  pure := done
  bind := bind

/-- Act once. -/
def perform (a : Action) : Job a.Answer := act a done

def broadcast (r : Request) (p : Payload) : Job Unit := perform (.emit (.broadcast r p))

def reply (c : RequestChannel) (r : Request) (p : Payload) : Job Unit :=
  perform (.emit (.reply c r p))

end Job

end NotebookKernel
