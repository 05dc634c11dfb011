import NotebookKernel.Channel.Bind
import NotebookKernel.Channel.Pump
import NotebookKernel.Kernel.Connection
import NotebookKernel.Kernel.Timeline

/-!
# A kernel behind its channels

Starting binds the channels and then starts the tooling; without tooling the kernel
serves all the same. Messages go in and come out as frames. After the kernel was asked
to exit, the channels are closed, the tooling is stopped and the loops end.
-/

namespace NotebookKernel

structure ConnectedKernel (σ : Type) where
  signer : Signer
  endpoints : Endpoints
  kernel : Kernel σ
  shell : Router
  control : Router
  iopub : Publisher
  /-- The identifiers and dates of messages still to be sent. -/
  stamps : Nat → Stamp
  stamped : Nat

namespace ConnectedKernel

variable {σ : Type}

/-- Bind, start, and serve. -/
def start (config : KernelConfig) (connection : ConnectionInfo) (used : InUse)
    (backend : Backend σ) (tooling : σ) (stamps : Nat → Stamp) :
    Except KernelError (ConnectedKernel σ) × InUse :=
  match connection.signer with
  | .error e => (.error (.protocol e), used)
  | .ok signer =>
      match bindChannels used connection.endpoints with
      | (.error failures, used) => (.error (.channelBind failures), used)
      | (.ok endpoints, used) =>
          (.ok {
            signer := signer
            endpoints := endpoints
            kernel := ((Kernel.new config backend tooling true).restart 0).settle
            shell := .new config.capacity
            control := .new config.capacity
            iopub := .new config.capacity
            stamps := stamps
            stamped := 0 }, used)

def router (r : ConnectedKernel σ) : RequestChannel → Router
  | .shell => r.shell
  | .control => r.control

def withRouter (r : ConnectedKernel σ) (c : RequestChannel) (router : Router) :
    ConnectedKernel σ :=
  match c with
  | .shell => { r with shell := router }
  | .control => { r with control := router }

/-- Put an emission into the queue of its channel, and let the pump send it. -/
def emit (r : ConnectedKernel σ) (e : Emission) : ConnectedKernel σ :=
  let m := e.message (r.stamps r.stamped)
  let r := { r with stamped := r.stamped + 1 }
  match e with
  | .reply c _ _ =>
      let router := taken (r.router c) ((r.router c).enqueue? m)
      r.withRouter c (taken router router.send?)
  | .broadcast _ _ =>
      let p := taken r.iopub (r.iopub.enqueue? m)
      { r with iopub := taken p p.send? }

/-- Send what the kernel has emitted beyond a number of emissions. -/
def pump (r : ConnectedKernel σ) (seen : Nat) : ConnectedKernel σ :=
  (r.kernel.emitted.drop seen).foldl emit r

/-- Let the request loop of a channel take the request that has arrived. -/
def serve (r : ConnectedKernel σ) (c : RequestChannel) : ConnectedKernel σ :=
  match (r.router c).take? with
  | none => r
  | some (request, router) =>
      let seen := r.kernel.emitted.length
      let kernel := (r.kernel.submit c request).2.settle
      ({ r with kernel := kernel }.withRouter c router).pump seen

/-- A message arrives on a channel, and is answered. -/
def receive (r : ConnectedKernel σ) (c : RequestChannel) (frames : List Bytes) :
    ConnectedKernel σ :=
  let router := taken (r.router c) ((r.router c).receive? r.signer frames)
  (r.withRouter c (taken router router.hand?)).serve c

/-- Restart the tooling from outside. -/
def restart (r : ConnectedKernel σ) (tag : Nat) : ConnectedKernel σ :=
  { r with kernel := (r.kernel.restart tag).settle }

/-- Has the kernel been asked to exit? -/
def isAskedToExit (r : ConnectedKernel σ) : Bool := 0 < r.kernel.signals

/-- Let the time to linger pass. -/
def linger (r : ConnectedKernel σ) : ConnectedKernel σ :=
  match r.kernel.exits.min? with
  | none => r
  | some t => { r with kernel := r.kernel.advance t }

/-- Ask the kernel to exit at once. -/
def shutdown (r : ConnectedKernel σ) : ConnectedKernel σ := { r with kernel := r.kernel.signal }

/-- Send what waits and close the channels. -/
def closeChannels (r : ConnectedKernel σ) : ConnectedKernel σ :=
  { r with
    shell := r.shell.shut
    control := r.control.shut
    iopub := r.iopub.shut }

/-- Tear everything down. -/
def finish (r : ConnectedKernel σ) : ConnectedKernel σ :=
  let r := r.closeChannels
  { r with kernel := r.kernel.tearDown 0 }

end ConnectedKernel

end NotebookKernel
