import NotebookKernel.Kernel.Service

/-!
# A kernel on a clock

A kernel with its tooling, its two request loops and a clock that stands still while
there is something to do and otherwise jumps to the next moment at which something
happens. Work in progress is kept in strands. A strand goes on until it has to wait:
for the answer of a call, or for the flight that it joined.
-/

namespace NotebookKernel

/-- How a call to the supervisor from outside ends. -/
inductive CallResult where
  | restarted (outcome : FlightOutcome)
  | stopped (outcome : StopOutcome)

/-- What a strand leaves behind. -/
inductive Finish where
  | shell (r : Request) (s : Session) (v : Verdict)
  | control (r : Request) (v : Verdict)
  | call (tag : Nat) (result : CallResult)

/-- What is remembered of a kernel's life. -/
inductive Event where
  /-- A request loop begins with a request. -/
  | begun (loop : RequestChannel) (request : Request)
  /-- Something is sent, by a request loop or by someone else. -/
  | sent (loop : Option RequestChannel) (emission : Emission)
  /-- The tooling is called. Whoever calls need not wait as long as the answer takes. -/
  | called (call : ToolingCall) (answer : Timed call.Answer)
  /-- A request loop is done with a request. -/
  | served (loop : RequestChannel) (request : Request) (verdict : Verdict)
  /-- The kernel is asked to exit. -/
  | signalled
  /-- A request loop ends because the kernel was asked to exit. -/
  | closed (loop : RequestChannel)
  /-- A call to the supervisor from outside has ended. -/
  | returned (tag : Nat) (result : CallResult)

namespace Event

def emission? : Event → Option Emission
  | sent _ e => some e
  | _ => none

def verdict? : Event → Option Verdict
  | served _ _ v => some v
  | _ => none

def result? : Event → Option (Nat × CallResult)
  | returned tag result => some (tag, result)
  | _ => none

end Event

inductive Work where
  | job (job : Job Finish)
  /-- Waiting for a flight to be over. -/
  | joined (flight : FlightId) (next : FlightOutcome → Job Finish)
  | stopping (phase : StopPhase) (next : StopOutcome → Job Finish)
  | flying (flight : FlightId) (phase : FlightPhase)

/-- Work, and the time from which on it can be done; without a time it is stuck. -/
structure Strand where
  wake : Option Nat
  work : Work
  /-- The request loop whose work it is. -/
  loop : Option RequestChannel

/-- The requests that wait for a loop. -/
structure Lane where
  queue : List Request
  busy : Bool
  ended : Bool

namespace Lane

def idle : Lane := ⟨[], false, false⟩

/-- The loop is done with a request. -/
def release (l : Lane) : Lane := { l with busy := false }

/-- The loop ends and forgets the requests that wait. -/
def close (l : Lane) : Lane := { l with queue := [], ended := true }

end Lane

structure Kernel (σ : Type) where
  config : KernelConfig
  backend : Backend σ
  tooling : σ
  supervisor : Supervisor
  session : Session
  now : Nat
  /-- Do the loops end when the kernel is asked to exit? -/
  obedient : Bool
  shell : Lane
  control : Lane
  strands : List Strand
  /-- How the flights that are over ended. -/
  landings : List (FlightId × FlightOutcome)
  /-- When the kernel will be asked to exit. -/
  exits : List Nat
  /-- How often it has been asked to. -/
  signals : Nat
  /-- Everything that has happened so far, the oldest first. -/
  journal : List Event

namespace Kernel

variable {σ : Type}

def new (config : KernelConfig) (backend : Backend σ) (tooling : σ) (obedient : Bool) :
    Kernel σ where
  config := config
  backend := backend
  tooling := tooling
  supervisor := .new
  session := .new config
  now := 0
  obedient := obedient
  shell := .idle
  control := .idle
  strands := []
  landings := []
  exits := []
  signals := 0
  journal := []

/-- Everything sent so far, the oldest first. -/
def emitted (k : Kernel σ) : List Emission := k.journal.filterMap Event.emission?

/-- The verdicts on the requests that were processed. -/
def verdicts (k : Kernel σ) : List Verdict := k.journal.filterMap Event.verdict?

/-- The calls that have ended. -/
def calls (k : Kernel σ) : List (Nat × CallResult) := k.journal.filterMap Event.result?

/-- Remember an event. -/
def note (k : Kernel σ) (e : Event) : Kernel σ := { k with journal := k.journal ++ [e] }

/-- The requests of a channel. -/
def lane (k : Kernel σ) : RequestChannel → Lane
  | .shell => k.shell
  | .control => k.control

def withLane (k : Kernel σ) (c : RequestChannel) (l : Lane) : Kernel σ :=
  match c with
  | .shell => { k with shell := l }
  | .control => { k with control := l }

/-- What a request loop does for a request. -/
def service (k : Kernel σ) (r : Request) : RequestChannel → Job Finish
  | .shell => (k.session.process r).map fun (s, v) => .shell r s v
  | .control => (Control.process k.config r).map (.control r)

def landing? (k : Kernel σ) (f : FlightId) : Option FlightOutcome :=
  (k.landings.find? fun l => l.1 == f).map (·.2)

/-- Can the strand go on right now? -/
def canGo (k : Kernel σ) (s : Strand) : Bool :=
  match s.work with
  | .joined f _ => (k.landing? f).isSome
  | _ =>
      match s.wake with
      | some t => t ≤ k.now
      | none => false

/-- Put work at the end of the strands. -/
def spawn (k : Kernel σ) (loop : Option RequestChannel) (w : Work) : Kernel σ :=
  { k with strands := k.strands ++ [⟨some k.now, w, loop⟩] }

/-- Begin the next request of a channel, or end its loop. -/
def feedLane (k : Kernel σ) (c : RequestChannel) : Kernel σ :=
  if (k.lane c).busy || (k.lane c).ended then k
  else if k.obedient && 0 < k.signals then (k.withLane c (k.lane c).close).note (.closed c)
  else
    match (k.lane c).queue with
    | [] => k
    | r :: rest =>
        ((k.withLane c ⟨rest, true, false⟩).note (.begun c r)).spawn (some c) (.job (k.service r c))

def feed (k : Kernel σ) : Kernel σ := (k.feedLane .control).feedLane .shell

/-- A request loop is done with a request. -/
def release (k : Kernel σ) (c : RequestChannel) (r : Request) (v : Verdict) : Kernel σ :=
  ((k.withLane c (k.lane c).release).note (.served c r v)).feed

/-- Record what a strand left behind. -/
def finish (k : Kernel σ) : Finish → Kernel σ
  | .shell r s v => { k with session := s }.release .shell r v
  | .control r v => k.release .control r v
  | .call tag result => k.note (.returned tag result)

/-- Call the tooling. -/
def ask (k : Kernel σ) (c : ToolingCall) : Timed c.Answer × Kernel σ :=
  let (t, tooling) := k.backend c k.tooling
  (c.heard k.config.disposeTimeout t, { k with tooling := tooling }.note (.called c t))

/-- The work to go on with and when; nothing if the strand is at its end. -/
abbrev Continuation (σ : Type) := Option (Option Nat × Work) × Kernel σ

def later {α : Type} (k : Kernel σ) (t : Timed α) (work : α → Work) : Continuation σ :=
  (some (t.delay.map (k.now + ·), work t.answer), k)

def atOnce (k : Kernel σ) (work : Work) : Continuation σ := (some (some k.now, work), k)

/-- Take a turn of a flight or of a stop. -/
def takeTurn {φ : Type} (k : Kernel σ) (turn : Turn φ) (work : φ → Work)
    (finished : Continuation σ) : Continuation σ :=
  match turn with
  | .locked step =>
      let (phase, s) := step k.supervisor
      { k with supervisor := s }.atOnce (work phase)
  | .call c next =>
      let (t, k) := k.ask c
      k.later t fun a => work (next a)
  | .finished => finished

/-- Answer an action of a job. -/
def act (k : Kernel σ) (loop : Option RequestChannel) (a : Action)
    (next : a.Answer → Job Finish) : Continuation σ :=
  match a, next with
  | .generation, next => k.atOnce (.job (next k.supervisor.generation))
  | .lease, next => k.atOnce (.job (next k.supervisor.lease?))
  | .restart, next =>
      let (f, created, s) := k.supervisor.join
      let k := { k with supervisor := s }
      let k := if created then k.spawn none (.flying f .opening) else k
      k.atOnce (.joined f next)
  | .stop, next => k.atOnce (.stopping .entering next)
  | .call c, next =>
      let (t, k) := k.ask c
      k.later t fun a => .job (next a)
  | .emit e, next => (k.note (.sent loop e)).atOnce (.job (next ()))
  | .leave, next =>
      { k with exits := k.exits ++ [k.now + k.config.shutdownLinger.millis] }.atOnce
        (.job (next ()))

/-- Let a piece of work go on by one step. -/
def proceed (k : Kernel σ) (loop : Option RequestChannel) : Work → Continuation σ
  | .job (.done f) => (none, k.finish f)
  | .job (.act a next) => k.act loop a next
  | .joined f next =>
      match k.landing? f with
      | some outcome => k.atOnce (.job (next outcome))
      | none => k.atOnce (.joined f next)
  | .stopping phase next =>
      match phase.outcome? with
      | some outcome => k.atOnce (.job (next outcome))
      | none => k.takeTurn phase.turn (.stopping · next) (none, k)
  | .flying f phase =>
      match phase.outcome? with
      | some outcome => (none, { k with landings := k.landings ++ [(f, outcome)] })
      | none => k.takeTurn phase.turn (.flying f ·) (none, k)

/-- Cut the strands before and after the first one that can go on. -/
def splitStrands (k : Kernel σ) : List Strand → Option (List Strand × Strand × List Strand)
  | [] => none
  | s :: rest =>
      if k.canGo s then some ([], s, rest)
      else (k.splitStrands rest).map fun (before, found, after) => (s :: before, found, after)

/-- Let the strand between others go on. Strands that it begins come after all others. -/
def resume (k : Kernel σ) (before : List Strand) (s : Strand) (after : List Strand) : Kernel σ :=
  let (next, k') := { k with strands := [] }.proceed s.loop s.work
  let next := next.map fun (wake, work) => (⟨wake, work, s.loop⟩ : Strand)
  { k' with strands := before ++ next.toList ++ after ++ k'.strands }

/-- Let the first strand go on that can. -/
def stepStrand (k : Kernel σ) : Option (Kernel σ) :=
  (k.splitStrands k.strands).map fun (before, s, after) => k.resume before s after

/-- Ask the kernel to exit. -/
def raise (k : Kernel σ) : Kernel σ := { k with signals := k.signals + 1 }.note .signalled

/-- Ask the kernel to exit. Loops that do nothing end at once. -/
def signal (k : Kernel σ) : Kernel σ := k.raise.feed

/-- The first of the exits that are due. -/
def stepExit (k : Kernel σ) : Option (Kernel σ) :=
  (k.exits.find? fun t => t ≤ k.now).map fun t =>
    { k with exits := k.exits.erase t }.signal

/-- Do one thing that can be done right now. -/
def stepNow (k : Kernel σ) : Option (Kernel σ) := k.stepStrand <|> k.stepExit

/-- The next moment at which something happens. -/
def nextMoment? (k : Kernel σ) : Option Nat :=
  (k.strands.filterMap fun s =>
    match s.work with
    | .joined _ _ => none
    | _ => s.wake) ++ k.exits |>.min?

/-- Do one thing, before which the clock may jump, but not beyond a limit. -/
def stepUntil (k : Kernel σ) (limit : Option Nat) : Option (Kernel σ) :=
  match k.stepNow with
  | some k => some k
  | none =>
      k.nextMoment?.bind fun t =>
        if limit.any (· < t) then none else some { k with now := max k.now t }

/-- Go on as long as something can be done before the limit and the condition holds. -/
def run (limit : Option Nat) (wanted : Kernel σ → Bool) : Nat → Kernel σ → Kernel σ
  | 0, k => k
  | fuel + 1, k =>
      if wanted k then
        match k.stepUntil limit with
        | some k => run limit wanted fuel k
        | none => k
      else k

/-- More steps than the work at hand can take. -/
def fuel (k : Kernel σ) : Nat :=
  256 * (1 + k.strands.length + k.shell.queue.length + k.control.queue.length + k.exits.length)

/-- Everything that happens up to a moment. -/
def advance (k : Kernel σ) (moment : Nat) : Kernel σ :=
  let k := run (some moment) (fun _ => true) k.fuel k
  { k with now := max k.now moment }

/-- Is anyone waiting for a request or a call? -/
def isEngaged (k : Kernel σ) : Bool :=
  k.shell.busy || k.control.busy || k.strands.any fun s =>
    match s.work with
    | .flying _ _ => false
    | _ => true

/-- Go on until every request and every call has ended. -/
def settle (k : Kernel σ) : Kernel σ := run none isEngaged k.fuel k

/-- Put a request at the end of a queue; nothing happens if its loop has ended. -/
def enqueue (k : Kernel σ) (c : RequestChannel) (r : Request) : Kernel σ :=
  if (k.lane c).ended then k
  else k.withLane c { k.lane c with queue := (k.lane c).queue ++ [r] }

/-- A request arrives; false if its loop has ended. -/
def submit (k : Kernel σ) (c : RequestChannel) (r : Request) : Bool × Kernel σ :=
  if (k.lane c).ended then (false, k) else (true, (k.enqueue c r).feed)

/-- Someone calls for a restart. -/
def restart (k : Kernel σ) (tag : Nat) : Kernel σ :=
  k.spawn none (.job (.act .restart fun o => .done (.call tag (.restarted o))))

/-- Someone calls for a stop. -/
def stop (k : Kernel σ) (tag : Nat) : Kernel σ :=
  k.spawn none (.job (.act .stop fun o => .done (.call tag (.stopped o))))

/-- End the request loops, in the middle of a request if need be. -/
def abortLoops (k : Kernel σ) : Kernel σ :=
  { k with
    strands := k.strands.filter fun s => s.loop.isNone
    shell := { k.shell with busy := false }.close
    control := { k.control with busy := false }.close }

/-- Stop the tooling without waiting for the loops, and then end them. -/
def tearDown (k : Kernel σ) (tag : Nat) : Kernel σ :=
  let waiting (j : Kernel σ) : Bool := j.calls.length == k.calls.length
  (run none waiting (k.fuel + 256) (k.stop tag)).abortLoops

end Kernel

end NotebookKernel
