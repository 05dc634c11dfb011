import NotebookKernel.Message.Frames
import NotebookKernel.Message.Request

/-!
# Pumps

Between the sockets and the request loops stand queues with a limit, and a pump for each
channel. A router reads messages, decodes them and hands the requests on, and it sends
the replies; a publisher only sends. Every function here is one step. A step that cannot
be taken gives nothing.

When the channels close, a pump first sends what is in its queue and then closes its
socket. A router that is about to hand on a request does not notice the closing before
there is room for the request.
-/

namespace NotebookKernel

/-- What a step leads to; where it cannot be taken, nothing changes. -/
def taken {α : Type} (before : α) (after : Option α) : α := after.getD before

/-- What waits, how much may wait, and whether more may come. -/
structure Queue (α : Type) where
  items : List α
  capacity : Nat
  closed : Bool

namespace Queue

variable {α : Type}

def new (capacity : Nat) : Queue α := ⟨[], capacity, false⟩

def hasRoom (q : Queue α) : Bool := q.items.length < q.capacity

/-- Put something at the end. A closed queue drops it; a full one makes the producer wait. -/
def push? (q : Queue α) (a : α) : Option (Queue α) :=
  if q.closed then some q
  else if q.hasRoom then some { q with items := q.items ++ [a] }
  else none

/-- Take the first. -/
def pop? (q : Queue α) : Option (α × Queue α) :=
  match q.items with
  | [] => none
  | a :: rest => some (a, { q with items := rest })

def close (q : Queue α) : Queue α := { q with closed := true }

end Queue

inductive PumpPhase where
  | serving
  | draining
  | closed
  deriving DecidableEq, Repr

/-- The pump of a channel that only sends. -/
structure Publisher where
  phase : PumpPhase
  outbound : Queue Message
  /-- What was handed to the socket, the oldest first. -/
  sent : List Message

namespace Publisher

def new (capacity : Nat) : Publisher := ⟨.serving, .new capacity, []⟩

/-- Someone has a message to send. -/
def enqueue? (p : Publisher) (m : Message) : Option Publisher :=
  (p.outbound.push? m).map fun q => { p with outbound := q }

/-- Send the first message. -/
def send? (p : Publisher) : Option Publisher :=
  match p.phase, p.outbound.pop? with
  | .closed, _ => none
  | _, none => none
  | _, some (m, q) => some { p with outbound := q, sent := p.sent ++ [m] }

/-- Notice that the channels close: nothing more is accepted. -/
def drain? (p : Publisher) : Option Publisher :=
  if p.phase = .serving then some { p with phase := .draining, outbound := p.outbound.close }
  else none

/-- Everything has been sent: close the socket. -/
def close? (p : Publisher) : Option Publisher :=
  if p.phase = .draining ∧ p.outbound.items = [] then some { p with phase := .closed } else none

/-- Send all that waits. -/
def flush (p : Publisher) : Nat → Publisher
  | 0 => p
  | fuel + 1 =>
      match p.send? with
      | some p => p.flush fuel
      | none => p

/-- Notice that the channels close, send what waits, and close the socket. -/
def shut (p : Publisher) : Publisher :=
  let p := taken p p.drain?
  let p := p.flush p.outbound.items.length
  taken p p.close?

end Publisher

/-- The pump of a channel on which requests arrive. -/
structure Router where
  /-- The side that sends. -/
  replies : Publisher
  inbound : Queue Request
  /-- A request for which there is no room yet. -/
  held : Option Request

namespace Router

def new (capacity : Nat) : Router := ⟨.new capacity, .new capacity, none⟩

/-- The request in a message, if it is one. -/
def decode (signer : Signer) (frames : List Bytes) : Except ProtocolError Request :=
  match Message.decode signer frames with
  | .ok m => Request.ofMessage m
  | .error e => .error e

/-- Is the router free to take a turn? It is not as long as it holds a request. -/
def isFree (r : Router) : Bool := r.held.isNone && r.replies.phase == .serving

/-- A message arrives. One that is no request is dropped. -/
def receive? (r : Router) (signer : Signer) (frames : List Bytes) : Option Router :=
  if r.isFree then
    match decode signer frames with
    | .ok request => some { r with held := some request }
    | .error _ => some r
  else none

/-- Hand on the request that is held. -/
def hand? (r : Router) : Option Router :=
  match r.held with
  | none => none
  | some request =>
      (r.inbound.push? request).map fun q => { r with held := none, inbound := q }

/-- The request loop takes a request. -/
def take? (r : Router) : Option (Request × Router) :=
  r.inbound.pop?.map fun (request, q) => (request, { r with inbound := q })

/-- The request loop has a reply to send. -/
def enqueue? (r : Router) (m : Message) : Option Router :=
  (r.replies.enqueue? m).map fun p => { r with replies := p }

def send? (r : Router) : Option Router :=
  if r.held.isNone then r.replies.send?.map fun p => { r with replies := p } else none

def drain? (r : Router) : Option Router :=
  if r.held.isNone then r.replies.drain?.map fun p => { r with replies := p } else none

def close? (r : Router) : Option Router :=
  r.replies.close?.map fun p => { r with replies := p }

/-- The router's side of closing the channels. -/
def shut (r : Router) : Router :=
  let r := taken r r.drain?
  let r := { r with replies := r.replies.flush r.replies.outbound.items.length }
  taken r r.close?

end Router

end NotebookKernel
