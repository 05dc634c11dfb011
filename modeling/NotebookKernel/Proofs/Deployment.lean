import NotebookKernel.Proofs.Deeds
import NotebookKernel.Proofs.Delivery
import NotebookKernel.Proofs.RequestLoops

/-!
# Deployments

A kernel behind its channels, from its start to its end. The request loops, the pumps, the flights
and whoever waits for the kernel to end take their steps in any order. A request loop takes a
request only when it is done with the one before, and a router that has read a request does nothing
else until there is room for it. Whoever waits for the kernel closes the channels, stops the
tooling and ends the loops, one after the other.

Calls to the tooling are answered at any time. A schedule in which the shell takes no request
before the first session is there is one of those that are considered.
-/

namespace NotebookKernel

/-! ## The system -/

/-- How far the kernel has been torn down. -/
inductive Teardown where
  /-- Nothing has been done before the kernel is asked to exit. -/
  | awaiting
  /-- The channels have been told to close. -/
  | closing
  /-- The channels are closed, and the tooling is being stopped. -/
  | stopping (phase : StopPhase)
  /-- The request loops have been ended, and the one who waited goes away. -/
  | gone
  deriving DecidableEq, Repr

/-- A kernel behind its channels, and how far it has been torn down. -/
structure Deployment (σ : Type) where
  exchange : Exchange σ
  teardown : Teardown

/-- One thing that can happen to a deployment. -/
inductive Motion (σ : Type) where
  /-- Something happens in the exchange. -/
  | happens (h : Happening σ)
  /-- A request loop looks whether it has to end, and then for a request. -/
  | poll (c : RequestChannel)
  /-- The kernel is torn down by one step. -/
  | tearDown

/-- A session has been taken away, and nothing can come before it is asked to close. -/
def Work.isClosing : Work → Bool
  | .stopping (.retiring (.disposing _)) _ => true
  | _ => false

/-- The strand of a loop that cannot be ended right now. -/
def Strand.isClosing (s : Strand) : Bool := s.loop.isSome && s.work.isClosing

/-- The queue of a router whose request loop is gone. -/
def Router.hangUp (r : Router) : Router :=
  { r with inbound := { r.inbound with items := [], closed := true } }

namespace Kernel

variable {σ : Type}

/-- Can the request loops be ended right now? -/
def isInterruptible (k : Kernel σ) : Bool := !k.strands.any Strand.isClosing

/-- The request loop of a channel has nothing to do. -/
def isIdle (k : Kernel σ) (c : RequestChannel) : Bool := !(k.lane c).busy && !(k.lane c).ended

theorem isIdle_iff {k : Kernel σ} {c : RequestChannel} : k.isIdle c = true ↔
    (k.lane c).busy = false ∧ (k.lane c).ended = false := by
  simp [isIdle]

/-- Take a step of a stop that no strand takes. -/
def turnStop (k : Kernel σ) (p : StopPhase) : StopPhase × Kernel σ :=
  match p.turn with
  | .locked step => ((step k.supervisor).1, { k with supervisor := (step k.supervisor).2 })
  | .call c next => (next (k.ask c).1.answer, (k.ask c).2)
  | .finished => (p, k)

end Kernel

namespace Exchange

variable {σ : Type}

def withKernel (x : Exchange σ) (k : Kernel σ) : Exchange σ :=
  x.withNode { x.node with kernel := k }

/-- A request loop that has ended drops its end of the queue. -/
def hangUpOf (x : Exchange σ) (c : RequestChannel) : Exchange σ :=
  if (x.node.kernel.lane c).ended then x.withRouter c (x.node.router c).hangUp else x

def hangUp (x : Exchange σ) : Exchange σ := (x.hangUpOf .control).hangUpOf .shell

/-- Have all sockets been closed? -/
def isClosed (x : Exchange σ) : Bool :=
  x.node.shell.replies.phase == .closed && x.node.control.replies.phase == .closed &&
    x.node.iopub.phase == .closed

end Exchange

namespace Deployment

variable {σ : Type}

/-- A new kernel, with its channels just bound. Its loops end when it is asked to exit. -/
def opened (config : KernelConfig) (backend : Backend σ) (tooling : σ) (signer : Signer)
    (endpoints : Endpoints) (stamps : Nat → Stamp) : Deployment σ where
  exchange := .opened config backend tooling true signer endpoints stamps
  teardown := .awaiting

abbrev node (x : Deployment σ) : ConnectedKernel σ := x.exchange.node

abbrev kernel (x : Deployment σ) : Kernel σ := x.exchange.node.kernel

@[simp] theorem mk_node (e : Exchange σ) (t : Teardown) :
    (⟨e, t⟩ : Deployment σ).node = e.node := rfl

@[simp] theorem mk_kernel (e : Exchange σ) (t : Teardown) :
    (⟨e, t⟩ : Deployment σ).kernel = e.node.kernel := rfl

/-- Can it happen by itself? Requests come through the routers only, the tooling is stopped only by
a request or in the end, and nobody else sends anything. -/
def admits (x : Deployment σ) : Happening σ → Bool
  | .move (.go i) => x.kernel.strands[i]?.any x.kernel.isReady
  | .move (.look _) => false
  | .move (.arrive _ _) => false
  | .move (.stop _) => false
  | .offer _ => false
  | .take _ => false
  | .close => false
  | .desert => (x.kernel.lane .shell).ended && (x.kernel.lane .control).ended
  | _ => true

/-- A request loop that has nothing to do ends, or begins a request. -/
def poll? (x : Deployment σ) (c : RequestChannel) : Option (Exchange σ) :=
  if x.kernel.isIdle c then
    if x.kernel.stopping then x.exchange.step? (.move (.look c))
    else (x.exchange.step? (.take c)).bind fun e => e.step? (.move (.look c))
  else none

/-- The next step of tearing the kernel down. -/
def tearDown? (x : Deployment σ) : Option (Deployment σ) :=
  match x.teardown with
  | .awaiting =>
      if 0 < x.kernel.signals then (x.exchange.step? .close).map (⟨·, .closing⟩) else none
  | .closing =>
    if x.exchange.isClosed then some { x with teardown := .stopping .entering } else none
  | .stopping p =>
      match p.outcome? with
      | none =>
          let (p, k) := x.kernel.turnStop p
          some ⟨x.exchange.withKernel k, .stopping p⟩
      | some .stopped =>
          if x.kernel.isInterruptible then some ⟨x.exchange.withKernel x.kernel.abortLoops, .gone⟩
          else none
      | some (.crashed _) => none
  | .gone => none

def hangUp (x : Deployment σ) : Deployment σ := { x with exchange := x.exchange.hangUp }

/-- The deployment after something has happened; nothing if it cannot happen right now. -/
def step? (x : Deployment σ) (m : Motion σ) : Option (Deployment σ) :=
  Option.map hangUp <|
    match m with
    | .happens h =>
        if x.admits h then (x.exchange.step? h).map fun e => { x with exchange := e } else none
    | .poll c => (x.poll? c).map fun e => { x with exchange := e }
    | .tearDown => x.tearDown?

def step (x : Deployment σ) (m : Motion σ) : Deployment σ := taken x (x.step? m)

/-- Let things happen, one after the other. -/
def play (x : Deployment σ) (ms : List (Motion σ)) : Deployment σ := ms.foldl step x

@[simp] theorem play_nil (x : Deployment σ) : x.play [] = x := rfl

@[simp] theorem play_cons (x : Deployment σ) (m : Motion σ) (ms : List (Motion σ)) :
    x.play (m :: ms) = (x.step m).play ms := rfl

@[simp] theorem play_append (x : Deployment σ) (first second : List (Motion σ)) :
    x.play (first ++ second) = (x.play first).play second := List.foldl_append

/-! ## All that a step can do -/

/-- What a motion does, before loops that have ended drop their queues. -/
inductive Leads (x : Deployment σ) : Motion σ → Exchange σ → Teardown → Prop
  /-- The kernel makes a move, once there is room for what it sends. -/
  | moves {mv : Move σ} {n : ConnectedKernel σ} (admitted : x.admits (.move mv) = true)
      (given : x.exchange.give? (x.kernel.emission? mv) = some n) :
      Leads x (.happens (.move mv)) (x.exchange.withNode { n with kernel := x.kernel.move mv })
        x.teardown
  | receives {c : RequestChannel} {frames : List Bytes} {r : Router}
      (received : (x.node.router c).receive? x.node.signer frames = some r) :
      Leads x (.happens (.receive c frames)) (x.exchange.withRouter c r) x.teardown
  | hands {c : RequestChannel} {r : Router} (handed : (x.node.router c).hand? = some r) :
      Leads x (.happens (.hand c)) (x.exchange.withRouter c r) x.teardown
  | sends {o : Outlet} {n : ConnectedKernel σ} (turned : x.node.turn? o = some n) :
      Leads x (.happens (.turn o)) (x.exchange.withNode n) x.teardown
  | notices {o : Outlet} {n : ConnectedKernel σ} (must : x.exchange.mustClose o = true)
      (noticed : x.node.drain? o = some n) :
      Leads x (.happens (.notice o)) (x.exchange.withNode n) x.teardown
  | deserts (alone : ∀ c, (x.kernel.lane c).ended = true) :
      Leads x (.happens .desert) { x.exchange with deserted := true } x.teardown
  /-- A request loop ends. -/
  | ends {c : RequestChannel} (idle : x.kernel.isIdle c = true) (asked : x.kernel.stopping = true) :
      Leads x (.poll c) (x.exchange.withKernel (x.kernel.feedLane c)) x.teardown
  /-- A request loop begins a request. -/
  | begins {c : RequestChannel} {r : Request} {router : Router} (idle : x.kernel.isIdle c = true)
      (unasked : x.kernel.stopping = false)
      (took : (x.node.router c).take? = some (r, router)) :
      Leads x (.poll c)
        ((x.exchange.withRouter c router).withKernel ((x.kernel.enqueue c r).feedLane c)) x.teardown
  | closes (awaits : x.teardown = .awaiting) (asked : 0 < x.kernel.signals) :
      Leads x .tearDown { x.exchange with closing := true } .closing
  | stops (closing : x.teardown = .closing) (closed : x.exchange.isClosed = true) :
      Leads x .tearDown x.exchange (.stopping .entering)
  /-- The stop takes a step. -/
  | turns {p : StopPhase} (stopping : x.teardown = .stopping p) (going : p.outcome? = none) :
      Leads x .tearDown (x.exchange.withKernel (x.kernel.turnStop p).2)
        (.stopping (x.kernel.turnStop p).1)
  /-- The loops are ended. -/
  | aborts {p : StopPhase} (stopping : x.teardown = .stopping p)
      (ended : p.outcome? = some .stopped) (free : x.kernel.isInterruptible = true) :
      Leads x .tearDown (x.exchange.withKernel x.kernel.abortLoops) .gone

variable {x y : Deployment σ} {m : Motion σ}

theorem step_some (h : x.step? m = some y) : x.step m = y := by simp [step, taken, h]

theorem step_none (h : x.step? m = none) : x.step m = x := by simp [step, taken, h]

theorem look_steps (e : Exchange σ) (c : RequestChannel) :
    e.step? (.move (.look c)) = some (e.withKernel (e.node.kernel.feedLane c)) := rfl

/-- Something that happens in the exchange leads to what the exchange then is. -/
theorem leads_of_happening {h : Happening σ} {e : Exchange σ} (admitted : x.admits h = true)
    (stepped : x.exchange.step? h = some e) : x.Leads (.happens h) e x.teardown := by
  cases h with
  | move mv =>
    obtain ⟨n, given, rfl⟩ := Option.map_eq_some_iff.mp stepped
    exact .moves admitted given
  | receive c frames =>
    obtain ⟨r, received, rfl⟩ := Option.map_eq_some_iff.mp stepped
    exact .receives received
  | hand c =>
    obtain ⟨r, handed, rfl⟩ := Option.map_eq_some_iff.mp stepped
    exact .hands handed
  | turn o =>
    obtain ⟨n, turned, rfl⟩ := Option.map_eq_some_iff.mp stepped
    exact .sends turned
  | notice o =>
    simp only [Exchange.step?, Option.ite_none_right_eq_some] at stepped
    obtain ⟨n, noticed, rfl⟩ := Option.map_eq_some_iff.mp stepped.2
    exact .notices stepped.1 noticed
  | desert =>
    cases stepped
    simp only [admits, Bool.and_eq_true] at admitted
    refine .deserts fun c => ?_
    cases c with
    | shell => exact admitted.1
    | control => exact admitted.2
  | offer e => cases admitted
  | take c => cases admitted
  | close => cases admitted

theorem leads_of_step (h : x.step? m = some y) :
    ∃ e t, x.Leads m e t ∧ y = ⟨e.hangUp, t⟩ := by
  obtain ⟨z, made, rfl⟩ := Option.map_eq_some_iff.mp h
  refine ⟨z.exchange, z.teardown, ?_, rfl⟩
  cases m with
  | happens h =>
    simp only [Option.ite_none_right_eq_some] at made
    obtain ⟨e, stepped, rfl⟩ := Option.map_eq_some_iff.mp made.2
    exact leads_of_happening made.1 stepped
  | poll c =>
    obtain ⟨e, polled, rfl⟩ := Option.map_eq_some_iff.mp made
    unfold poll? at polled
    split at polled
    · rename_i idle
      split at polled
      · rename_i asked
        cases polled
        exact .ends idle asked
      · rename_i unasked
        obtain ⟨_, taken, looked⟩ := Option.bind_eq_some_iff.mp polled
        obtain ⟨⟨r, router⟩, took, rfl⟩ := Option.map_eq_some_iff.mp taken
        cases looked
        exact .begins idle (Bool.eq_false_iff.mpr unasked) took
    · cases polled
  | tearDown =>
    obtain ⟨e, t⟩ := x
    unfold tearDown? at made
    cases t with
    | awaiting =>
      simp only [Option.ite_none_right_eq_some] at made
      obtain ⟨asked, made⟩ := made
      cases made
      exact .closes rfl asked
    | closing =>
      simp only [Option.ite_none_right_eq_some] at made
      obtain ⟨closed, made⟩ := made
      cases made
      exact .stops rfl closed
    | gone => cases made
    | stopping p =>
      simp only at made
      split at made
      · rename_i going
        cases made
        exact .turns rfl going
      · rename_i ended
        simp only [Option.ite_none_right_eq_some] at made
        obtain ⟨free, made⟩ := made
        cases made
        exact .aborts rfl ended free
      · cases made

/-- Each of these is a step. -/
theorem step_of_leads {e : Exchange σ} {t : Teardown} (h : x.Leads m e t) :
    x.step? m = some ⟨e.hangUp, t⟩ := by
  suffices made : (match m with
      | .happens h =>
          if x.admits h then (x.exchange.step? h).map fun e => { x with exchange := e } else none
      | .poll c => (x.poll? c).map fun e => { x with exchange := e }
      | .tearDown => x.tearDown?) = some ⟨e, t⟩ from by
    simp only [step?, made, Option.map_some, hangUp]
  cases h with
  | moves admitted given => simp [admitted, Exchange.step?, given]
  | receives received => simp [admits, Exchange.step?, received]
  | hands handed => simp [admits, Exchange.step?, handed]
  | sends turned => simp [admits, Exchange.step?, turned]
  | notices must noticed => simp [admits, Exchange.step?, must, noticed]
  | deserts alone => simp [admits, alone, Exchange.step?]
  | ends idle asked => simp [poll?, idle, asked, look_steps]
  | begins idle unasked took =>
    simp only [poll?, idle, unasked, if_true, Bool.false_eq_true, if_false, Exchange.step?, took,
      Option.map_some, Option.bind_some]
    rfl
  | closes awaits asked => simp [tearDown?, awaits, asked, Exchange.step?]
  | stops closing closed => simp [tearDown?, closing, closed]
  | turns stopping going => simp [tearDown?, stopping, going]
  | aborts stopping ended free => simp [tearDown?, stopping, ended, free]

theorem step_eq {e : Exchange σ} {t : Teardown} (h : x.Leads m e t) : x.step m = ⟨e.hangUp, t⟩ :=
  step_some (step_of_leads h)

/-- A motion that cannot happen leaves the deployment as it is. -/
theorem step_cases (x : Deployment σ) (m : Motion σ) :
    x.step m = x ∨ ∃ e t, x.Leads m e t ∧ x.step m = ⟨e.hangUp, t⟩ := by
  cases stepped : x.step? m with
  | none => exact Or.inl (step_none stepped)
  | some y =>
    obtain ⟨e, t, led, rfl⟩ := leads_of_step stepped
    exact Or.inr ⟨e, t, led, step_some stepped⟩

end Deployment

end NotebookKernel
