import NotebookKernel.Proofs.Envelope
import NotebookKernel.Kernel.Timeline

/-!
# How long a request takes

A job is a tree without loops, so it takes a bounded number of turns, whatever it is answered.
Each handler has its bound, and so has each request: sixteen turns of its strand.
-/

namespace NotebookKernel

open Job

/-- How many turns of its strand an action takes until its answer is there. A restart waits for a
flight in between, and a stop goes through phases of its own. -/
def Action.turns : Action → Nat
  | .restart => 2
  | .stop => 5
  | _ => 1

/-- The job is done after so many turns, whatever it is answered. -/
def Job.Takes {α : Type} : Job α → Nat → Prop
  | .done _, _ => True
  | .act a next, n => a.turns ≤ n ∧ ∀ x, (next x).Takes (n - a.turns)

theorem Job.Takes.mono {α : Type} {j : Job α} {n m : Nat} (h : j.Takes n) (le : n ≤ m) :
    j.Takes m := by
  induction j generalizing n m with
  | done a => trivial
  | act a next ih =>
    exact ⟨Nat.le_trans h.1 le, fun x => ih x (h.2 x) (Nat.sub_le_sub_right le _)⟩

/-- Most actions take one turn. -/
theorem Job.Takes.act {α : Type} {a : Action} {next : a.Answer → Job α} {n : Nat}
    (single : a.turns = 1) (h : ∀ x, (next x).Takes n) : (Job.act a next).Takes (n + 1) := by
  refine ⟨single ▸ Nat.le_add_left 1 n, fun x => ?_⟩
  rw [single]
  exact h x

/-- How many turns a stop takes from a phase to its end. -/
def StopPhase.remaining : StopPhase → Nat
  | entering => 3
  | retiring (.disposing _) => 2
  | retiring (.killing _) => 1
  | ended => 0
  | crashed _ => 0

/-- The phases to which a turn may lead. -/
inductive Turn.Leads {φ : Type} : Turn φ → φ → Prop
  | locked {step : Supervisor → φ × Supervisor} (s : Supervisor) :
      Turn.Leads (.locked step) (step s).1
  | call {c : ToolingCall} {next : c.Answer → φ} (x : c.Answer) : Turn.Leads (.call c next) (next x)

/-- A stop comes nearer to its end with each turn. -/
theorem StopPhase.remaining_lt {p q : StopPhase} (leads : p.turn.Leads q) :
    q.remaining < p.remaining := by
  cases p with
  | entering =>
    simp only [turn] at leads
    cases leads with
    | locked s =>
      obtain ⟨session, s', taken⟩ : ∃ session s', s.stop = (session, s') := ⟨_, _, rfl⟩
      cases session <;> simp [taken, remaining]
  | retiring old =>
    cases old with
    | disposing c =>
      simp only [turn, Retirement.turn] at leads
      cases leads with
      | call x => cases x <;> simp [remaining]
    | killing c =>
      simp only [turn, Retirement.turn] at leads
      cases leads with
      | call x => simp [remaining]
  | ended | crashed m => cases leads

/-- One job after the other takes the turns of both. -/
theorem Job.Takes.bind {α β : Type} {j : Job α} {f : α → Job β} {n m : Nat} (h : j.Takes n)
    (sequel : ∀ a, (f a).Takes m) : (j.bind f).Takes (n + m) := by
  induction j generalizing n with
  | done a => exact (sequel a).mono (Nat.le_add_left m n)
  | act a next ih =>
    refine ⟨Nat.le_add_right_of_le h.1, fun x => ?_⟩
    rw [Nat.sub_add_comm h.1]
    exact ih x (h.2 x)

/-- What becomes of the result takes no turn. -/
theorem Job.Takes.map {α β : Type} {j : Job α} {n : Nat} (h : j.Takes n) (f : α → β) :
    (j.bind fun a => done (f a)).Takes n :=
  h.bind (m := 0) fun _ => trivial

/-- The envelope takes a turn for busy and a turn for idle. -/
theorem enveloped_takes {α : Type} {r : Request} {job : Job α} {n : Nat} (h : job.Takes n) :
    (enveloped r job).Takes (n + 2) :=
  .act rfl fun _ => h.bind (m := 1) fun _ => .act rfl fun _ => trivial

namespace Session

variable {r : Request}

theorem sync_takes (s : Session) : s.sync.Takes 1 := .act rfl fun _ => trivial

theorem lease_takes (s : Session) : s.lease.Takes 2 := by
  refine .act rfl fun x => ?_
  cases x with
  | none => trivial
  | some l =>
    by_cases same : l.generation = s.generation
    · simp [Job.bind, same, Takes]
    · simpa [Job.bind, same] using s.sync_takes.map fun s => (s, some l.session)

theorem ensureSetup_takes (s : Session) (tooling : SessionId) :
    (s.ensureSetup r tooling).Takes 3 := by
  unfold ensureSetup
  split
  · trivial
  · split
    · trivial
    · refine .act rfl fun _ => .act rfl fun x => ?_
      cases x with
      | failed e | crashed m => trivial
      | value a => exact .act rfl fun _ => trivial

theorem compileAndRun_takes (tooling : SessionId) (cell : Cell) :
    (compileAndRun r tooling cell).Takes 4 := by
  unfold compileAndRun
  split
  · trivial
  · refine .act rfl fun _ => .act rfl fun x => ?_
    cases x with
    | failed e | crashed m => trivial
    | value a => exact .act rfl fun _ => .act rfl fun _ => trivial

theorem build_takes (s : Session) (tooling : SessionId) (cell : Cell) :
    (s.build r tooling cell).Takes 7 := by
  refine (ensureSetup_takes s tooling).bind (m := 4) fun x => ?_
  obtain ⟨t, o⟩ := x
  cases o with
  | failed e | crashed m => trivial
  | value _ => exact (compileAndRun_takes tooling cell).map _

theorem reportFailure_takes (n : Int) (e : ErrorContent) : (reportFailure r n e).Takes 2 :=
  .act rfl fun _ => .act rfl fun _ => trivial

theorem abandon_takes (s : Session) (e : KernelError) : (s.abandon r e).Takes 2 := by
  unfold abandon
  cases s.owed with
  | none => trivial
  | some n => exact (reportFailure_takes _ _).map _

theorem execute_takes (s : Session) (code : String) : (s.execute r code).Takes 12 := by
  refine s.lease_takes.bind (m := 10) fun x => ?_
  obtain ⟨s, tooling⟩ := x
  cases tooling with
  | none => exact .act rfl fun _ => trivial
  | some tooling =>
    refine .act rfl fun _ => (build_takes _ tooling _).bind (m := 2) fun x => ?_
    obtain ⟨s, o⟩ := x
    cases o with
    | value data => exact .act rfl fun _ => .act rfl fun _ => trivial
    | failed e => exact (reportFailure_takes _ _).map _
    | crashed m => exact (s.abandon_takes _).map _

/-- A question looks for a session, calls it and replies. -/
theorem Asks.takes {q : Question} {ask : Session → Job (Session × Verdict)} (asks : Asks r q ask)
    (s : Session) : (ask s).Takes 4 := by
  have replied {s : Session} {p : Option Payload} {j : Job (Session × Verdict)}
      (tells : Tells r s p j) : j.Takes 1 := by
    cases tells with
    | replies p => exact .act rfl fun _ => trivial
    | crashes m => trivial
  obtain ⟨j, same, none, some⟩ := asks
  rw [same]
  refine s.lease_takes.bind (m := 2) fun x => ?_
  obtain ⟨s, tooling⟩ := x
  cases tooling with
  | none => exact (replied (none s)).mono (by decide)
  | some l =>
    obtain ⟨rest, called, tells⟩ := some s l
    rw [called]
    exact .act rfl fun x => replied (tells x)

end Session

theorem restartTooling_takes {α : Type} {c : RequestChannel} {r : Request} {prepare : Job α}
    {n : Nat} (h : prepare.Takes n) : (restartTooling c r prepare).Takes (n + 3) := by
  refine ⟨Nat.le_add_left 2 (n + 1), fun o => ?_⟩
  exact h.bind (m := 1) fun _ => .act rfl fun _ => trivial

theorem shutDown_takes (c : RequestChannel) (r : Request) : (shutDown c r).Takes 7 := by
  refine ⟨Nat.le_add_left 5 2, fun o => ?_⟩
  cases o with
  | crashed m => trivial
  | stopped => exact .act rfl fun _ => .act rfl fun _ => trivial

theorem Session.serve_takes (s : Session) (r : Request) (service : Service) :
    (s.serve r service).Takes 12 := by
  cases service with
  | kernelInfo | history => exact .act rfl fun _ => trivial
  | execute =>
    cases content : r.content with
    | execute code =>
      simp only [serve, content]
      exact s.execute_takes code
    | _ => simp [serve, content, Takes]
  | complete =>
    cases content : r.content with
    | complete code cursor =>
      simp only [serve, content]
      exact ((complete_asks r code cursor).takes s).mono (by decide)
    | _ => simp [serve, content, Takes]
  | inspect =>
    cases content : r.content with
    | inspect code cursor detail =>
      simp only [serve, content]
      exact ((inspect_asks r code cursor).takes s).mono (by decide)
    | _ => simp [serve, content, Takes]
  | shutdown =>
    cases content : r.content with
    | shutdown again =>
      cases again with
      | true =>
        simp only [serve, content]
        exact ((restartTooling_takes s.sync_takes).map _).mono (by decide)
      | false =>
        simp only [serve, content]
        exact ((shutDown_takes .shell r).map _).mono (by decide)
    | _ => simp [serve, content, Takes]

theorem Control.serve_takes (config : KernelConfig) (r : Request) (service : Service) :
    (Control.serve config r service).Takes 7 := by
  cases service with
  | kernelInfo => exact .act rfl fun _ => trivial
  | shutdown =>
    cases content : r.content with
    | shutdown again =>
      cases again with
      | true =>
        simp only [serve, content]
        have nothing : (done ()).Takes 0 := trivial
        exact ((restartTooling_takes nothing).map _).mono (by decide)
      | false =>
        simp only [serve, content]
        exact shutDown_takes .control r
    | _ => simp [serve, content, Takes]
  | _ => trivial

/-- A request of the shell takes a turn to look at the generation, two for the envelope, and those
of its service. -/
theorem Session.process_takes (s : Session) (r : Request) : (s.process r).Takes 15 := by
  refine s.sync_takes.bind (m := 14) fun s => ?_
  cases Service.find? .shell r.msgType with
  | none => trivial
  | some service => exact enveloped_takes (s.serve_takes r service)

theorem Control.process_takes (config : KernelConfig) (r : Request) :
    (Control.process config r).Takes 9 := by
  unfold process
  cases Service.find? .control r.msgType with
  | none => trivial
  | some service => exact enveloped_takes (serve_takes config r service)

/-- Any request takes fifteen turns at most, and one more to leave the verdict. -/
theorem Kernel.service_takes {σ : Type} (k : Kernel σ) (r : Request) (c : RequestChannel) :
    (k.service r c).Takes 15 := by
  cases c with
  | shell => exact (k.session.process_takes r).map _
  | control =>
    exact ((Control.process_takes k.config r).map _).mono (by decide)

end NotebookKernel
