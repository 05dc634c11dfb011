import NotebookKernel.Proofs.Chronicle
import NotebookKernel.Proofs.Deeds

/-!
# The shell by itself

While nothing but requests of the shell arrives, the kernel does one thing after the other: it
serves the requests in their order, and each action of a request has its answer before the next
one is taken. What comes of a request is then told in one big step, without strands and without a
clock. However the moves of the shell are scheduled, what they come to is what these steps say.
-/

namespace NotebookKernel

open Job

/-- Nothing happens but that requests arrive for the shell, that the loops look for work, and that
strands go on. -/
def Move.OfShell {σ : Type} : Move σ → Prop
  | .go _ => True
  | .look _ => True
  | .arrive c _ => c = .shell
  | .wait _ => True
  | _ => False

namespace Kernel

variable {σ : Type}

/-- What matters of a kernel when it does one thing after the other. -/
def core (k : Kernel σ) : Kernel σ :=
  { k with now := 0, shell := .idle, control := .idle, strands := [], exits := [] }

/-- Nothing is going on, and the loops need not end. Requests may wait for the shell. -/
structure Quiet (k : Kernel σ) : Prop where
  strands : k.strands = []
  free : k.shell.busy = false
  unended : k.shell.ended = false
  control : k.control = .idle
  going : k.stopping = false

/-- The shell serves nothing, and nothing waits for it. -/
structure Drained (k : Kernel σ) : Prop where
  queue : k.shell.queue = []
  free : k.shell.busy = false

/-- The requests that the shell has to serve in the course of a schedule. -/
def awaiting (k : Kernel σ) (moves : List (Move σ)) : List Request :=
  k.shell.queue ++ arrivals .shell moves

/-- Turns that are taken one after the other, from one phase to another. -/
inductive Turns {φ : Type} (turn : φ → Turn φ) : Kernel σ → φ → Kernel σ → φ → Prop
  | here (k : Kernel σ) (p : φ) : Turns turn k p k p
  | locked {k k' : Kernel σ} {p p' : φ} {step : Supervisor → φ × Supervisor}
      (taken : turn p = .locked step)
      (rest : Turns turn { k with supervisor := (step k.supervisor).2 } (step k.supervisor).1
        k' p') :
      Turns turn k p k' p'
  | call {k k' : Kernel σ} {p p' : φ} {c : ToolingCall} {next : c.Answer → φ}
      (taken : turn p = .call c next)
      (rest : Turns turn (k.ask c).2 (next (k.ask c).1.answer) k' p') : Turns turn k p k' p'

/-- The kernel after a flight was created. -/
def departed (k : Kernel σ) : Kernel σ := { k with supervisor := k.supervisor.join.2.2 }

/-- The kernel after a flight has landed. -/
def arrived (k : Kernel σ) (f : FlightId) (o : FlightOutcome) : Kernel σ :=
  { k with landings := k.landings ++ [(f, o)] }

/-- The answer that an action of the shell gets, and the kernel when it has got it. -/
inductive Answers : Kernel σ → (a : Action) → a.Answer → Kernel σ → Prop
  | generation (k : Kernel σ) : Answers k .generation k.supervisor.generation k
  | lease (k : Kernel σ) : Answers k .lease k.supervisor.lease? k
  | emit (k : Kernel σ) (e : Emission) : Answers k (.emit e) () (k.note (.sent (some .shell) e))
  | call (k : Kernel σ) (c : ToolingCall) : Answers k (.call c) (k.ask c).1.answer (k.ask c).2
  | leave (k : Kernel σ) : Answers k .leave () k
  | stop {k k' : Kernel σ} {p : StopPhase} {o : StopOutcome}
      (turns : Turns StopPhase.turn k .entering k' p) (ended : p.outcome? = some o) :
      Answers k .stop o k'
  /-- A restart waits for its flight. -/
  | restart {k k' : Kernel σ} {p : FlightPhase} {o : FlightOutcome}
      (free : k.supervisor.pending = none) (fresh : ∀ l ∈ k.landings, l.1 ≠ k.supervisor.flights)
      (turns : Turns FlightPhase.turn k.departed .opening k' p) (ended : p.outcome? = some o) :
      Answers k .restart o (k'.arrived k.supervisor.flights o)
  /-- A restart joins a flight that has crashed. -/
  | joined {k : Kernel σ} {f : FlightId} {o : FlightOutcome}
      (pending : k.supervisor.pending = some f) (landed : (f, o) ∈ k.landings) :
      Answers k .restart o k

/-- With the answers of the kernel the first job comes as far as the second. -/
inductive Comes {α : Type} : Kernel σ → Job α → Kernel σ → Job α → Prop
  | here (k : Kernel σ) (j : Job α) : Comes k j k j
  | act {k k' k'' : Kernel σ} {a : Action} {x : a.Answer} {next : a.Answer → Job α} {j : Job α}
      (answers : Answers k a x k') (rest : Comes k' (next x) k'' j) : Comes k (.act a next) k'' j

/-- Requests of the shell are served one after the other. -/
inductive Serves : Kernel σ → List Request → Kernel σ → Prop
  | nil (k : Kernel σ) : Serves k [] k
  | cons {k k' k'' : Kernel σ} {r : Request} {rest : List Request} {s : Session} {v : Verdict}
      (comes : Comes (k.note (.begun .shell r)) (k.session.process r) k' (.done (s, v)))
      (serves : Serves ({ k' with session := s }.note (.served .shell r v)) rest k'') :
      Serves k (r :: rest) k''

section Steps

variable {k k' k'' : Kernel σ}

theorem Turns.trans {φ : Type} {turn : φ → Turn φ} {p p' p'' : φ} (first : Turns turn k p k' p')
    (second : Turns turn k' p' k'' p'') : Turns turn k p k'' p'' := by
  induction first with
  | here => exact second
  | locked taken _ ih => exact .locked taken (ih second)
  | call taken _ ih => exact .call taken (ih second)

/-- Turns leave the landings alone. -/
theorem Turns.landings {φ : Type} {turn : φ → Turn φ} {p p' : φ} (h : Turns turn k p k' p') :
    k'.landings = k.landings := by
  induction h with
  | here => rfl
  | locked _ _ ih => exact ih
  | call _ _ ih => exact ih

theorem Comes.trans {α : Type} {j j' j'' : Job α} (first : Comes k j k' j')
    (second : Comes k' j' k'' j'') : Comes k j k'' j'' := by
  induction first with
  | here => exact second
  | act answers _ ih => exact .act answers (ih second)

/-- A job goes on with an answer. -/
theorem Comes.goesOn {α : Type} {j : Job α} {a : Action} {x : a.Answer} {next : a.Answer → Job α}
    (h : Comes k j k' (.act a next)) (answers : Answers k' a x k'') : Comes k j k'' (next x) :=
  h.trans (.act answers (.here _ _))

theorem Serves.append {first second : List Request} (h : Serves k first k')
    (h' : Serves k' second k'') : Serves k (first ++ second) k'' := by
  induction h with
  | nil => exact h'
  | cons comes _ ih => exact .cons comes (ih h')

end Steps

/-! ## Schedules of the shell -/

/-- The loops are left alone. -/
structure Aloof (k j : Kernel σ) : Prop where
  shell : j.shell = k.shell
  control : j.control = k.control
  stopping : j.stopping = k.stopping

/-- An action that neither restarts nor stops the tooling has its answer at once. -/
theorem act_answers (k : Kernel σ) {a : Action} (lone : a ≠ .restart ∧ a ≠ .stop)
    (next : a.Answer → Job Finish) :
    ∃ x wake k', k.act (some .shell) a next = (some (wake, .job (next x)), k') ∧
      Answers k.core a x k'.core ∧ k.Aloof k' ∧ k'.strands = k.strands := by
  have same : k.Aloof k := ⟨rfl, rfl, rfl⟩
  cases a with
  | generation => exact ⟨_, _, k, rfl, .generation k.core, same, rfl⟩
  | lease => exact ⟨_, _, k, rfl, .lease k.core, same, rfl⟩
  | restart => exact absurd rfl lone.1
  | stop => exact absurd rfl lone.2
  | call c => exact ⟨_, _, _, rfl, .call k.core c, ⟨rfl, rfl, rfl⟩, rfl⟩
  | emit e => exact ⟨_, _, _, rfl, .emit k.core e, ⟨rfl, rfl, rfl⟩, rfl⟩
  | leave => exact ⟨_, _, _, rfl, .leave k.core, ⟨rfl, rfl, rfl⟩, rfl⟩

/-- A turn is taken, and the next one is due. -/
theorem takeTurn_turns {φ : Type} (k : Kernel σ) {turn : φ → Turn φ} {p : φ}
    (going : turn p ≠ .finished) (work : φ → Work) :
    ∃ p' wake k', k.takeTurn (turn p) work (none, k) = (some (wake, work p'), k') ∧
      Turns turn k.core p k'.core p' ∧ k.Aloof k' ∧ k'.strands = k.strands := by
  cases taken : turn p with
  | locked step => exact ⟨_, _, _, rfl, .locked taken (.here _ _), ⟨rfl, rfl, rfl⟩, rfl⟩
  | call c next => exact ⟨_, _, _, rfl, .call taken (.here _ _), ⟨rfl, rfl, rfl⟩, rfl⟩
  | finished => exact absurd taken going

/-- How far the shell has come with a request that it began in a kernel. -/
inductive Underway (r : Request) (base j : Kernel σ) : Prop where
  | job {rest : Job (Session × Verdict)} {wake : Option Nat}
      (comes : Comes (base.note (.begun .shell r)) (base.session.process r) j.core rest)
      (strands : j.strands = [⟨wake, .job (rest.map (Finish.ofShell r)), some .shell⟩])
  | stopping {i : Kernel σ} {next : StopOutcome → Job (Session × Verdict)} {p : StopPhase}
      {wake : Option Nat}
      (comes : Comes (base.note (.begun .shell r)) (base.session.process r) i (.act .stop next))
      (turns : Turns StopPhase.turn i .entering j.core p)
      (strands : j.strands =
        [⟨wake, .stopping p fun o => (next o).map (Finish.ofShell r), some .shell⟩])
  | flying {i : Kernel σ} {next : FlightOutcome → Job (Session × Verdict)} {p : FlightPhase}
      {wake wake' : Option Nat}
      (comes : Comes (base.note (.begun .shell r)) (base.session.process r) i (.act .restart next))
      (free : i.supervisor.pending = none) (fresh : ∀ l ∈ i.landings, l.1 ≠ i.supervisor.flights)
      (turns : Turns FlightPhase.turn i.departed .opening j.core p)
      (strands : j.strands =
        [⟨wake, .joined i.supervisor.flights fun o => (next o).map (Finish.ofShell r), some .shell⟩,
          ⟨wake', .flying i.supervisor.flights p, none⟩])
  | landed {i : Kernel σ} {next : FlightOutcome → Job (Session × Verdict)} {f : FlightId}
      {o : FlightOutcome} {wake : Option Nat}
      (comes : Comes (base.note (.begun .shell r)) (base.session.process r) i (.act .restart next))
      (answers : Answers i .restart o j.core) (arrived : (f, o) ∈ j.landings)
      (strands : j.strands =
        [⟨wake, .joined f fun o => (next o).map (Finish.ofShell r), some .shell⟩])

/-- The clock and the loops do not matter. -/
theorem Underway.same {r : Request} {base j j' : Kernel σ} (h : Underway r base j)
    (core : j'.core = j.core) (strands : j'.strands = j.strands) : Underway r base j' := by
  have landings : j'.core.landings = j.core.landings := congrArg Kernel.landings core
  cases h with
  | job comes alone => exact .job (core ▸ comes) (strands.trans alone)
  | stopping comes turns alone => exact .stopping comes (core ▸ turns) (strands.trans alone)
  | flying comes free fresh turns alone =>
    exact .flying comes free fresh (core ▸ turns) (strands.trans alone)
  | @landed _ _ f o _ comes answers arrived alone =>
    have there : (f, o) ∈ j'.core.landings := landings ▸ arrived
    exact .landed comes (core ▸ answers) there (strands.trans alone)

/-- What the shell has done since the kernel was quiet, and what it has been asked. -/
structure Alone (k j : Kernel σ) (asked : List Request) : Prop where
  control : j.control = .idle
  going : j.stopping = false
  unended : j.shell.ended = false
  stage : ∃ served base, Serves k.core served base ∧
    ((j.shell.busy = false ∧ j.strands = [] ∧ j.core = base ∧ asked = served ++ j.shell.queue) ∨
      (j.shell.busy = true ∧ ∃ r, asked = served ++ r :: j.shell.queue ∧ Underway r base j))

namespace Alone

variable {k j : Kernel σ} {asked : List Request}

theorem start (quiet : k.Quiet) : Alone k k k.shell.queue where
  control := quiet.control
  going := quiet.going
  unended := quiet.unended
  stage := ⟨[], k.core, .nil _, Or.inl ⟨quiet.free, quiet.strands, rfl, rfl⟩⟩

/-- A loop that looks for work begins the next request of the shell, if it can. -/
theorem look (h : Alone k j asked) (c : RequestChannel) : Alone k (j.feedLane c) asked := by
  have going : (j.obedient && decide (0 < j.signals)) = false := h.going
  cases c with
  | control =>
    have same : j.feedLane .control = j := by
      simp [Kernel.feedLane, Kernel.lane, h.control, Lane.idle, going]
    rw [same]
    exact h
  | shell =>
    obtain ⟨served, base, serves, ⟨free, none, rfl, same⟩ | ⟨busy, underway⟩⟩ := h.stage
    · cases queue : j.shell.queue with
      | nil =>
        have still : j.feedLane .shell = j := by
          simp [Kernel.feedLane, Kernel.lane, free, h.unended, going, queue]
        rw [still]
        exact h
      | cons r rest =>
        have begun : j.feedLane .shell = ((j.withLane .shell ⟨rest, true, false⟩).note
            (.begun .shell r)).spawn (some .shell) (.job (j.service r .shell)) := by
          simp [Kernel.feedLane, Kernel.lane, free, h.unended, going, queue]
        rw [begun]
        refine ⟨h.control, h.going, rfl, served, j.core, serves, Or.inr ⟨rfl, r, ?_, ?_⟩⟩
        · rw [same, queue]
          rfl
        · have only : (((j.withLane .shell ⟨rest, true, false⟩).note (.begun .shell r)).spawn
              (some .shell) (.job (j.service r .shell))).strands =
              [⟨some j.now, .job (j.service r .shell), some .shell⟩] := by
            rw [spawn_strands, note_strands, withLane_strands, none]
            rfl
          exact .job (.here _ _) only
    · have still : j.feedLane .shell = j := by
        simp [Kernel.feedLane, Kernel.lane, busy]
      rw [still]
      exact h

variable {base i : Kernel σ} {served : List Request} {r : Request}
  {before after strands : List Strand} {t : Strand} {wake wake' : Option Nat} {w : Work}

/-- A strand goes on or comes to its end, and the loops are left alone. -/
theorem resume (h : Alone k j asked) (serves : Serves k.core served base)
    (busy : j.shell.busy = true) (same : asked = served ++ r :: j.shell.queue)
    (resumed : j.resume before t after = { i with strands := strands }) (aloof : j.bare.Aloof i)
    (underway : Underway r base { i with strands := strands }) :
    Alone k (j.resume before t after) asked := by
  have shell : i.shell = j.shell := aloof.shell
  rw [resumed]
  refine ⟨aloof.control.trans h.control, aloof.stopping.trans h.going, ?_, served, base, serves,
    Or.inr ⟨?_, r, ?_, underway⟩⟩
  · exact shell ▸ h.unended
  · exact shell ▸ busy
  · exact shell ▸ same

/-- A strand goes on, and may have begun others. -/
theorem goes (h : Alone k j asked) (serves : Serves k.core served base)
    (busy : j.shell.busy = true) (same : asked = served ++ r :: j.shell.queue)
    (step : j.stepped t = (some (wake, w), i)) (aloof : j.bare.Aloof i)
    (began : i.strands = strands)
    (underway : Underway r base
      { i with strands := before ++ ⟨wake, w, t.loop⟩ :: (after ++ strands) }) :
    Alone k (j.resume before t after) asked := by
  refine h.resume serves busy same ?_ aloof underway
  have next : { j with strands := [] }.proceed t.loop t.work = (some (wake, w), i) := step
  unfold Kernel.resume
  rw [next]
  simp [began]

/-- The shell is done with its request, and looks for the next one. -/
theorem finished {s : Session} {v : Verdict} (h : Alone k j asked)
    (serves : Serves k.core served base) (same : asked = served ++ r :: j.shell.queue)
    (comes : Comes (base.note (.begun .shell r)) (base.session.process r) j.core (.done (s, v))) :
    Alone k (j.resume [] ⟨wake, .job (.done (.shell r s v)), some .shell⟩ []) asked := by
  let free : Kernel σ :=
    ({ j.bare with session := s }.withLane .shell j.shell.release).note (.served .shell r v)
  have idle : Alone k free asked := by
    refine ⟨h.control, h.going, h.unended, served ++ [r], free.core, ?_, Or.inl ⟨rfl, rfl, rfl, ?_⟩⟩
    · exact serves.append (.cons comes (.nil _))
    · rw [same, List.append_assoc]
      rfl
  exact (idle.look .control).look .shell

/-- The shell takes an action. -/
theorem acts {a : Action} {next : a.Answer → Job (Session × Verdict)}
    (h : Alone k j asked) (proper : j.Proper) (serves : Serves k.core served base)
    (busy : j.shell.busy = true) (same : asked = served ++ r :: j.shell.queue)
    (comes : Comes (base.note (.begun .shell r)) (base.session.process r) j.core (.act a next))
    (alone : j.strands = [⟨wake, .job ((Job.act a next).map (Finish.ofShell r)), some .shell⟩]) :
    Alone k (j.resume [] ⟨wake, .job ((Job.act a next).map (Finish.ofShell r)), some .shell⟩ [])
      asked := by
  by_cases lone : a ≠ .restart ∧ a ≠ .stop
  · obtain ⟨x, wake', i, step, answers, aloof, none⟩ :=
      j.bare.act_answers lone fun x => (next x).map (Finish.ofShell r)
    exact h.goes serves busy same step aloof none (.job (comes.goesOn answers) rfl)
  · cases a with
    | stop =>
      exact h.goes serves busy same rfl ⟨rfl, rfl, rfl⟩ rfl (.stopping comes (.here _ _) rfl)
    | restart =>
      cases pending : j.supervisor.pending with
      | some f =>
        -- no flight is on its way, so that this one has landed
        obtain ⟨o, landed⟩ : ∃ o, (f, o) ∈ j.landings := by
          have known : f < j.supervisor.flights :=
            proper.regular.last f pending ▸ Nat.lt_succ_self f
          refine (proper.regular.flies_or_landed known).resolve_left ?_
          rintro ⟨p, flies⟩
          simp [traffic, trafficOf, alone, Work.flight?] at flies
        exact h.goes serves busy same (proceed_joins (k := j.bare) pending) ⟨rfl, rfl, rfl⟩ rfl
          (.landed comes (.joined pending landed) landed rfl)
      | none =>
        have fresh : ∀ l ∈ j.landings, l.1 ≠ j.supervisor.flights := fun l member =>
          Nat.ne_of_lt (proper.regular.attended.landed l member).1
        have began : ({ j.bare with supervisor := { j.supervisor with
              pending := some j.supervisor.flights, flights := j.supervisor.flights + 1 } }.spawn
            none (.flying j.supervisor.flights .opening)).strands =
            [⟨some j.now, .flying j.supervisor.flights .opening, none⟩] := rfl
        refine h.goes serves busy same (proceed_creates (k := j.bare) pending) ⟨rfl, rfl, rfl⟩ began
          (.flying comes pending fresh ?_ rfl)
        have joined : j.core.supervisor.join.2.2 = { j.supervisor with
            pending := some j.supervisor.flights, flights := j.supervisor.flights + 1 } := by
          simp [core, Supervisor.join, pending]
        rw [departed, joined]
        exact .here _ _
    | _ => exact absurd ⟨by simp, by simp⟩ lone

/-- A stop takes a turn, or has ended. -/
theorem stops {next : StopOutcome → Job (Session × Verdict)} {p : StopPhase}
    (h : Alone k j asked) (serves : Serves k.core served base) (busy : j.shell.busy = true)
    (same : asked = served ++ r :: j.shell.queue)
    (comes : Comes (base.note (.begun .shell r)) (base.session.process r) i (.act .stop next))
    (turns : Turns StopPhase.turn i .entering j.core p) :
    Alone k (j.resume []
      ⟨wake, .stopping p fun o => (next o).map (Finish.ofShell r), some .shell⟩ []) asked := by
  cases ended : p.outcome? with
  | some o =>
    have stepped : j.stepped ⟨wake, .stopping p fun o => (next o).map (Finish.ofShell r),
        some .shell⟩ = (some (some j.now, .job ((next o).map (Finish.ofShell r))), j.bare) := by
      simp only [Kernel.stepped, proceed, ended]
      rfl
    exact h.goes serves busy same stepped ⟨rfl, rfl, rfl⟩ rfl
      (.job (comes.goesOn (.stop turns ended)) rfl)
  | none =>
    obtain ⟨p', wake', i', step, turn, aloof, none⟩ :=
      j.bare.takeTurn_turns (StopPhase.turn_ne_finished ended)
        fun p => .stopping p fun o => (next o).map (Finish.ofShell r)
    have stepped : j.stepped ⟨wake, .stopping p fun o => (next o).map (Finish.ofShell r),
        some .shell⟩ =
          (some (wake', .stopping p' fun o => (next o).map (Finish.ofShell r)), i') := by
      simp only [Kernel.stepped, proceed, ended]
      exact step
    exact h.goes serves busy same stepped aloof none (.stopping comes (turns.trans turn) rfl)

/-- The flight takes a turn, or has come to its end. -/
theorem flies {next : FlightOutcome → Job (Session × Verdict)} {p : FlightPhase}
    (h : Alone k j asked) (serves : Serves k.core served base) (busy : j.shell.busy = true)
    (same : asked = served ++ r :: j.shell.queue)
    (comes : Comes (base.note (.begun .shell r)) (base.session.process r) i (.act .restart next))
    (free : i.supervisor.pending = none) (fresh : ∀ l ∈ i.landings, l.1 ≠ i.supervisor.flights)
    (turns : Turns FlightPhase.turn i.departed .opening j.core p) :
    Alone k (j.resume [⟨wake, .joined i.supervisor.flights fun o =>
        (next o).map (Finish.ofShell r), some .shell⟩]
      ⟨wake', .flying i.supervisor.flights p, none⟩ []) asked := by
  cases ended : p.outcome? with
  | some o =>
    have landed : j.resume [⟨wake, .joined i.supervisor.flights fun o =>
          (next o).map (Finish.ofShell r), some .shell⟩]
        ⟨wake', .flying i.supervisor.flights p, Option.none⟩ [] =
        { j.arrived i.supervisor.flights o with strands := [⟨wake, .joined i.supervisor.flights
          fun o => (next o).map (Finish.ofShell r), some .shell⟩] } := by
      unfold Kernel.resume
      simp only [proceed, ended]
      rfl
    refine h.resume serves busy same landed ⟨rfl, rfl, rfl⟩
      (.landed comes (.restart free fresh turns ended) ?_ rfl)
    exact List.mem_append_right _ (List.mem_singleton_self _)
  | none =>
    obtain ⟨p', wake'', i', step, turn, aloof, none⟩ :=
      j.bare.takeTurn_turns (FlightPhase.turn_ne_finished ended)
        fun p => .flying i.supervisor.flights p
    have stepped : j.stepped ⟨wake', .flying i.supervisor.flights p, Option.none⟩ =
        (some (wake'', .flying i.supervisor.flights p'), i') := by
      simp only [Kernel.stepped, proceed, ended]
      exact step
    exact h.goes serves busy same stepped aloof none
      (.flying comes free fresh (turns.trans turn) rfl)

/-- The shell looks whether its flight has landed, and goes on if it has. -/
theorem waits {next : FlightOutcome → Job (Session × Verdict)} {f : FlightId}
    (h : Alone k j asked) (serves : Serves k.core served base) (busy : j.shell.busy = true)
    (same : asked = served ++ r :: j.shell.queue)
    (goesOn : ∀ o, (f, o) ∈ j.landings → Underway r base { j with strands := before ++
      ⟨some j.now, .job ((next o).map (Finish.ofShell r)), some .shell⟩ :: after })
    (still : (∀ o, (f, o) ∉ j.landings) → Underway r base { j with strands := before ++
      ⟨some j.now, .joined f fun o => (next o).map (Finish.ofShell r), some .shell⟩ :: after }) :
    Alone k (j.resume before
      ⟨wake, .joined f fun o => (next o).map (Finish.ofShell r), some .shell⟩ after) asked := by
  cases landed : j.landing? f with
  | some o =>
    have there : j.bare.landing? f = some o := landed
    have stepped : j.stepped ⟨wake, .joined f fun o => (next o).map (Finish.ofShell r),
        some .shell⟩ = (some (some j.now, .job ((next o).map (Finish.ofShell r))), j.bare) := by
      simp only [Kernel.stepped, proceed, there]
      rfl
    refine h.goes serves busy same stepped ⟨rfl, rfl, rfl⟩ rfl ?_
    rw [bare_strands, List.append_nil]
    exact goesOn o (landed_of_landing landed)
  | none =>
    have there : j.bare.landing? f = none := landed
    have stepped : j.stepped ⟨wake, .joined f fun o => (next o).map (Finish.ofShell r),
        some .shell⟩ =
        (some (some j.now, .joined f fun o => (next o).map (Finish.ofShell r)), j.bare) := by
      simp only [Kernel.stepped, proceed, there]
      rfl
    refine h.goes serves busy same stepped ⟨rfl, rfl, rfl⟩ rfl ?_
    rw [bare_strands, List.append_nil]
    refine still fun o member => ?_
    have absent := List.find?_eq_none.mp (Option.map_eq_none_iff.mp landed) (f, o) member
    simp at absent

/-- The only strand goes on, or nothing happens. -/
theorem one {n : Nat} (h : Alone k j asked) (only : j.strands = [t])
    (goesOn : Alone k (j.resume [] t []) asked) : Alone k (j.move (.go n)) asked := by
  cases n with
  | zero => simpa [Kernel.move, only] using goesOn
  | succ n => simpa [Kernel.move, only] using h

/-- A strand goes on. -/
theorem goOn (h : Alone k j asked) (proper : j.Proper) (n : Nat) :
    Alone k (j.move (.go n)) asked := by
  obtain ⟨served, base, serves, ⟨_, none, _⟩ | ⟨busy, r, same, underway⟩⟩ := h.stage
  · simpa [Kernel.move, none] using h
  cases underway with
  | @job rest wake comes strands =>
    refine h.one strands ?_
    cases rest with
    | done x => exact h.finished serves same comes
    | act a next => exact h.acts proper serves busy same comes strands
  | stopping comes turns strands => exact h.one strands (h.stops serves busy same comes turns)
  | @landed i next f o wake comes answers arrived strands =>
    refine h.one strands (h.waits serves busy same ?_ ?_)
    · intro o' there
      obtain rfl := proper.regular.same_outcome arrived there
      exact .job (comes.goesOn answers) rfl
    · exact fun never => absurd arrived (never o)
  | @flying i next p wake wake' comes free fresh turns strands =>
    -- the flight has not landed yet
    have away : ∀ o, (i.supervisor.flights, o) ∉ j.landings := by
      intro o there
      have old : (i.supervisor.flights, o) ∈ i.landings := turns.landings ▸ there
      exact fresh _ old rfl
    obtain _ | _ | n := n
    · rw [Kernel.move, strands]
      refine h.waits serves busy same (fun o there => absurd there (away o)) fun _ => ?_
      exact .flying comes free fresh turns rfl
    · rw [Kernel.move, strands]
      exact h.flies serves busy same comes free fresh turns
    · simpa [Kernel.move, strands] using h

/-- A request arrives for the shell. -/
theorem asks (h : Alone k j asked) (q : Request) :
    Alone k (j.enqueue .shell q) (asked ++ [q]) := by
  have queued : j.enqueue .shell q =
      j.withLane .shell { j.shell with queue := j.shell.queue ++ [q] } := by
    simp [Kernel.enqueue, Kernel.lane, h.unended]
  rw [queued]
  obtain ⟨served, base, serves, ⟨free, none, rfl, rfl⟩ | ⟨busy, r, rfl, underway⟩⟩ := h.stage
  · refine ⟨h.control, h.going, h.unended, served, _, serves, Or.inl ⟨free, none, rfl, ?_⟩⟩
    exact List.append_assoc ..
  · refine ⟨h.control, h.going, h.unended, served, base, serves, Or.inr ⟨busy, r, ?_, ?_⟩⟩
    · simp [withLane]
    · exact underway.same rfl rfl

/-- The clock goes on. -/
theorem later (h : Alone k j asked) (now : Nat) : Alone k { j with now := now } asked := by
  obtain ⟨served, base, serves, ⟨free, none, rfl, rfl⟩ | ⟨busy, r, rfl, underway⟩⟩ := h.stage
  · exact ⟨h.control, h.going, h.unended, served, _, serves, Or.inl ⟨free, none, rfl, rfl⟩⟩
  · exact ⟨h.control, h.going, h.unended, served, base, serves,
      Or.inr ⟨busy, r, rfl, underway.same rfl rfl⟩⟩

/-- Each move of the shell takes it further. -/
theorem move {m : Move σ} (h : Alone k j asked) (proper : j.Proper) (own : m.OfShell) :
    Alone k (j.move m) (asked ++ (m.arrival? .shell).toList) := by
  cases m with
  | go n => simpa [Move.arrival?] using h.goOn proper n
  | look c => simpa [Move.arrival?, Kernel.move] using h.look c
  | wait t => simpa [Move.arrival?, Kernel.move] using h.later _
  | arrive c m =>
    obtain rfl : c = .shell := own
    cases request : Request.ofMessage m with
    | ok q => simpa [Move.arrival?, Kernel.move, request, Except.toOption] using h.asks q
    | error e => simpa [Move.arrival?, Kernel.move, request, Except.toOption] using h
  | restart tag => exact own.elim
  | stop tag => exact own.elim
  | raise => exact own.elim
  | leave t => exact own.elim
  | change tooling => exact own.elim

end Alone

/-- However the moves of the shell are scheduled, it does one thing after the other. -/
theorem play_alone {k : Kernel σ} (proper : k.Proper) (quiet : k.Quiet) (moves : List (Move σ))
    (own : ∀ m ∈ moves, m.OfShell) : Alone k (k.play moves) (k.awaiting moves) := by
  induction moves using List.reverseRecOn with
  | nil => simpa [awaiting, arrivals] using Alone.start quiet
  | append_singleton past m ih =>
    have before := ih fun n hn => own n (List.mem_append_left _ hn)
    rw [play_append, awaiting, arrivals_snoc, ← List.append_assoc]
    exact before.move (proper.play past) (own m (by simp))

/-- When the shell has nothing left to do, its requests have been served one after the other. -/
theorem play_serves {k : Kernel σ} (proper : k.Proper) (quiet : k.Quiet) (moves : List (Move σ))
    (own : ∀ m ∈ moves, m.OfShell) (done : (k.play moves).Drained) :
    Serves k.core (k.awaiting moves) (k.play moves).core := by
  obtain ⟨served, base, serves, ⟨_, _, rfl, same⟩ | ⟨busy, _⟩⟩ :=
    (play_alone proper quiet moves own).stage
  · rw [same, done.queue, List.append_nil]
    exact serves
  · rw [done.free] at busy
    cases busy

/-- The tooling is started from outside. -/
def started : List (Move σ) :=
  .restart 0 :: .go 0 :: List.replicate 7 (.go 1) ++ List.replicate 2 (.go 0)

/-- A kernel whose first flight is on its way, and somebody waits for it. -/
def launching (config : KernelConfig) (backend : Backend σ) (w : σ) (obedient : Bool)
    (s : Supervisor) (p : FlightPhase) (es : List Event) : Kernel σ :=
  { new config backend w obedient with
    supervisor := s
    strands := [⟨some 0, .joined 0 fun o => .done (.call 0 (.restarted o)), none⟩,
      ⟨some 0, .flying 0 p, none⟩]
    journal := es }

/-- The flight takes a turn under the lock. -/
theorem launching_go {config : KernelConfig} {backend : Backend σ} {w : σ} {obedient : Bool}
    {s : Supervisor} {p : FlightPhase} {es : List Event}
    {step : Supervisor → FlightPhase × Supervisor} (taken : p.turn = .locked step) :
    (launching config backend w obedient s p es).move (.go 1) =
      launching config backend w obedient (step s).2 (step s).1 es := by
  have flying : p.outcome? = none := by
    cases p with
    | landed o => cases taken
    | crashed m => cases taken
    | _ => rfl
  simp [launching, move, resume, proceed, flying, taken, takeTurn, atOnce, new]

/-- The kernel once its tooling has been started. -/
theorem play_started (config : KernelConfig) (backend : Backend σ) {w w' : σ} (obedient : Bool)
    {c : SessionId} (starts : backend .start w = (.now (.value c), w')) :
    (new config backend w obedient).play started =
      { new config backend w' obedient with
        supervisor := ⟨.running, some c, 1, none, 1, 2⟩
        landings := [(0, .ok 1)]
        journal := [.called .start (.now (.value c)), .returned 0 (.restarted (.ok 1))] } := by
  let es : List Event := [.called .start (.now (.value c))]
  have joined : (new config backend w obedient).play [.restart 0, .go 0] =
      launching config backend w obedient ⟨.uninitialized, none, 0, some 0, 1, 0⟩ .opening [] := rfl
  have cleared : (launching config backend w obedient ⟨.uninitialized, none, 0, some 0, 1, 0⟩
        .opening []).play [.go 1, .go 1, .go 1] =
      launching config backend w obedient ⟨.starting, none, 0, some 0, 1, 1⟩ (.starting .starting)
        [] := by
    simp only [play_cons, play_nil]
    rw [launching_go rfl, launching_go rfl, launching_go rfl]
    rfl
  have called : (launching config backend w obedient ⟨.starting, none, 0, some 0, 1, 1⟩
        (.starting .starting) []).move (.go 1) =
      launching config backend w' obedient ⟨.starting, none, 0, some 0, 1, 1⟩
        (.installing .starting c) es := by
    simp [launching, es, move, resume, proceed, FlightPhase.outcome?, takeTurn, FlightPhase.turn,
      ask, starts, new, later, note, ToolingCall.heard, Timed.now]
  have installed : (launching config backend w' obedient ⟨.starting, none, 0, some 0, 1, 1⟩
        (.installing .starting c) es).play [.go 1, .go 1] =
      launching config backend w' obedient ⟨.running, some c, 1, none, 1, 2⟩ (.landed (.ok 1))
        es := by
    simp only [play_cons, play_nil]
    rw [launching_go rfl, launching_go rfl]
    rfl
  have landed : (launching config backend w' obedient ⟨.running, some c, 1, none, 1, 2⟩
        (.landed (.ok 1)) es).play [.go 1, .go 0, .go 0] =
      { new config backend w' obedient with
        supervisor := ⟨.running, some c, 1, none, 1, 2⟩
        landings := [(0, .ok 1)]
        journal := es ++ [.returned 0 (.restarted (.ok 1))] } := rfl
  have moves : (started : List (Move σ)) = [.restart 0, .go 0] ++ ([.go 1, .go 1, .go 1] ++
      .go 1 :: ([.go 1, .go 1] ++ [.go 1, .go 0, .go 0])) := rfl
  rw [moves, play_append, joined, play_append, cleared, play_cons, called, play_append, installed,
    landed]
  rfl

/-- A message of the shell is served by tooling that answers at once. -/
def serving (m : Message) : List (Move σ) :=
  [.arrive .shell m, .look .shell] ++ List.replicate 3 (.go 0) ++ List.replicate 8 (.go 1) ++
    List.replicate 9 (.go 0)

theorem serving_ofShell (m : Message) : ∀ n ∈ (serving m : List (Move σ)), n.OfShell := by
  simp [serving, Move.OfShell]

end Kernel

/-- What a front-end asks. -/
def Message.asking (type : String) (content : Json.Dict) : Message :=
  ⟨[], ⟨"1", "", "", "", type, ""⟩, none, [], .object content, []⟩

end NotebookKernel
