import NotebookKernel.Channel.Address

/-!
# Binding the channels

All four channels are bound, or none. Each is tried, in a fixed order and given those
that were bound before it, so that a failure reports every channel that cannot be bound.
-/

namespace NotebookKernel

/-- The addresses that are taken. -/
abbrev InUse := List Address

namespace Address

/-- An address stands in the way of another one. A port of a host is also taken by the host that
stands for all. -/
def blocks : Address → Address → Bool
  | tcp h p, tcp k q => p == q && (h == k || h == "0.0.0.0" || k == "0.0.0.0")
  | ipc p, ipc q => p == q
  | _, _ => false

/-- The first port that is free among so many, from a given one on. -/
def freePort (used : InUse) (host : String) : Nat → Nat → Nat
  | 0, port => port
  | tries + 1, port =>
      if used.any fun a => a.blocks (.tcp host port) then freePort used host tries (port + 1)
      else port

/-- The address that is taken when this one is bound: port 0 stands for a port that is free. -/
def settle (used : InUse) : Address → Address
  | tcp host 0 => .tcp host (freePort used host (used.length + 1) 32768)
  | a => a

end Address

/-- Bind one endpoint: the address that is then taken. -/
def bindEndpoint (used : InUse) (endpoint : String) : Except BindFault Address :=
  match Address.parse endpoint with
  | .error f => .error f
  | .ok a =>
      let a := a.settle used
      if used.any fun b => b.blocks a then .error .inUse else .ok a

/-- How a socket is bound to an endpoint when some addresses are taken: the address that is then
taken as well, or the reason why nothing is. -/
abbrev Binder := InUse → String → Except String Address

/-- Sockets that are bound to one endpoint each. -/
def bindSocket : Binder := fun used endpoint =>
  (bindEndpoint used endpoint).mapError BindFault.message

/-- What came of the channels tried so far, in their order. -/
structure Attempt where
  used : InUse
  bound : List (ChannelKind × Address)
  failures : List BindFailure

namespace Attempt

def tryChannel (bind : Binder) (e : Endpoints) (t : Attempt) (k : ChannelKind) : Attempt :=
  match bind t.used (e.get k) with
  | .ok a => { t with used := a :: t.used, bound := t.bound ++ [(k, a)] }
  | .error reason => { t with failures := t.failures ++ [⟨k, e.get k, reason⟩] }

/-- Try every channel. -/
def all (bind : Binder) (used : InUse) (e : Endpoints) : Attempt :=
  ChannelKind.all.foldl (tryChannel bind e) ⟨used, [], []⟩

/-- The address of a channel that was bound. -/
def address (t : Attempt) (k : ChannelKind) : String :=
  ((t.bound.find? fun b => b.1 == k).map fun b => b.2.text).getD ""

def endpoints (t : Attempt) : Endpoints :=
  ⟨t.address .heartbeat, t.address .shell, t.address .control, t.address .iopub⟩

/-- Close the sockets that were bound, one after the other. Each gives its address back. -/
def release (t : Attempt) : InUse := t.bound.foldl (fun used b => used.erase b.2) t.used

end Attempt

/-- Bind all channels: the endpoints, or the failures; and what is taken afterwards. -/
def bindChannelsWith (bind : Binder) (used : InUse) (e : Endpoints) :
    Except (List BindFailure) Endpoints × InUse :=
  let t := Attempt.all bind used e
  if t.failures = [] then (.ok t.endpoints, t.used) else (.error t.failures, t.release)

def bindChannels : InUse → Endpoints → Except (List BindFailure) Endpoints × InUse :=
  bindChannelsWith bindSocket

end NotebookKernel
