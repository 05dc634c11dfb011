import Mathlib.Data.Multiset.MapFold
import NotebookKernel.Proofs.Traffic

/-!
# The state of the supervisor

The lifecycle, the live session and the flight on its way change in separate steps, and
stops come in between. `FlightPhase.Fits` says what the supervisor looks like at each
point of a flight; only one flight is on its way at a time, so that each step finds what
the step before it left, or a stop.
-/

namespace NotebookKernel

namespace Supervisor

/-- Stopped, without a session. -/
def Halted (s : Supervisor) : Prop := s.lifecycle = .stopped ∧ s.session = none

/-- A session is live if and only if the kernel is running, and no flight has moved it. -/
def Settled (s : Supervisor) : Prop :=
  s.lifecycle = .uninitialized ∧ s.session = none ∨
    s.lifecycle = .running ∧ s.session ≠ none ∨ s.Halted

/-- A running kernel has a session; one that is not running and not being restarted has none. -/
structure Consistent (s : Supervisor) : Prop where
  running : s.lifecycle = .running → s.session ≠ none
  idle : s.lifecycle = .uninitialized ∨ s.lifecycle = .starting ∨ s.lifecycle = .stopped →
    s.session = none

/-- A flight that moved the lifecycle to the target has found no session or taken it away. -/
def Vacant (s : Supervisor) (target : Lifecycle) : Prop :=
  s.session = none ∧ (s.lifecycle = target ∨ s.lifecycle = .stopped)

end Supervisor

/-- The states to which a flight moves the lifecycle. -/
def Lifecycle.IsTarget (l : Lifecycle) : Prop := l = .starting ∨ l = .restarting

namespace FlightPhase

def isLanded : FlightPhase → Bool
  | landed _ => true
  | _ => false

/-- The supervisor as it may be when a flight has come to a phase. -/
def Fits (s : Supervisor) : FlightPhase → Prop
  | opening => s.Settled
  | entering target => s.Settled ∧
      (target = .starting ∧ s.lifecycle ≠ .running ∨
        target = .restarting ∧ s.lifecycle ≠ .uninitialized)
  | taking target =>
      target = .starting ∧ s.Vacant target ∨
        target = .restarting ∧ (s.lifecycle = target ∨ s.Halted)
  | retiring target _ => target.IsTarget ∧ s.Vacant target
  | starting target => target.IsTarget ∧ s.Vacant target
  | failing _ => ∃ target : Lifecycle, target.IsTarget ∧ s.Vacant target
  | installing target _ => target.IsTarget ∧ s.Vacant target
  | discarding _ => s.Halted
  | clearing _ => s.Settled
  | landed _ => True
  | crashed _ => ∃ target : Lifecycle, target.IsTarget ∧ s.Vacant target

end FlightPhase

namespace Supervisor

variable {s : Supervisor}

theorem move_ok {target : Lifecycle} (h : s.lifecycle.allows target = true) :
    s.move target = .ok { s with lifecycle := target, moves := s.moves + 1 } := by
  simp [move, Lifecycle.transition, h]

theorem move_rejected {target : Lifecycle} (h : s.lifecycle.allows target = false) :
    s.move target = .error ⟨s.lifecycle, target⟩ := by
  simp [move, Lifecycle.transition, h]

/-- Only a stopped kernel rejects to be stopped. -/
theorem stopped_of_rejected {e : LifecycleError} (h : s.move .stopped = .error e) :
    s.lifecycle = .stopped := by
  cases state : s.lifecycle with
  | stopped => rfl
  | _ =>
    rw [move_ok (by rw [state]; rfl)] at h
    cases h

theorem tryMove_stopped (s : Supervisor) :
    (s.tryMove .stopped).lifecycle = .stopped ∧ (s.tryMove .stopped).session = s.session ∧
      (s.tryMove .stopped).pending = s.pending ∧ (s.tryMove .stopped).flights = s.flights ∧
      (s.tryMove .stopped).generation = s.generation := by
  unfold tryMove
  cases moved : s.move .stopped with
  | error e => exact ⟨stopped_of_rejected moved, rfl, rfl, rfl, rfl⟩
  | ok s' =>
    have allowed : s.lifecycle.allows .stopped = true := by
      cases allows : s.lifecycle.allows .stopped with
      | true => rfl
      | false =>
        rw [move_rejected allows] at moved
        cases moved
    rw [move_ok allowed] at moved
    cases moved
    exact ⟨rfl, rfl, rfl, rfl, rfl⟩

/-- A flight that finds the lifecycle where it moved it can always install its session. -/
theorem install_eq {target : Lifecycle} (isTarget : target.IsTarget) (fresh : SessionId) :
    s.install target fresh =
      if s.lifecycle = target then
        (some (.ok (s.generation + 1)),
          { s with
            lifecycle := .running, session := some fresh, generation := s.generation + 1,
            moves := s.moves + 1 })
      else (none, s) := by
  unfold install
  split
  · rename_i same
    have allowed : s.lifecycle.allows .running = true := by
      rcases isTarget with rfl | rfl <;> rw [same] <;> rfl
    have moved : ({ s with session := some fresh, generation := s.generation + 1 }).move .running =
        .ok { s with
          lifecycle := .running, session := some fresh, generation := s.generation + 1,
          moves := s.moves + 1 } := move_ok allowed
    simp only [moved]
  · rfl

/-- A stop leaves no session. -/
theorem stop_halts (s : Supervisor) : s.stop.2.Halted :=
  ⟨(tryMove_stopped s).1, rfl⟩

end Supervisor

theorem Supervisor.Settled.consistent {s : Supervisor} (h : s.Settled) : s.Consistent := by
  rcases h with ⟨state, none⟩ | ⟨state, live⟩ | ⟨state, none⟩
  · exact ⟨by simp [state], fun _ => none⟩
  · exact ⟨fun _ => live, by simp [state]⟩
  · exact ⟨by simp [state], fun _ => none⟩

theorem Supervisor.Vacant.consistent {s : Supervisor} {target : Lifecycle} (h : s.Vacant target)
    (isTarget : target.IsTarget) : s.Consistent := by
  obtain ⟨none, there⟩ := h
  refine ⟨fun running => ?_, fun _ => none⟩
  rcases isTarget with rfl | rfl <;> simp [running] at there

namespace FlightPhase

variable {p : FlightPhase} {s : Supervisor}

theorem Fits.consistent (h : p.Fits s) (active : p.isLanded = false) : s.Consistent := by
  cases p with
  | opening => exact Supervisor.Settled.consistent h
  | entering target => exact h.1.consistent
  | taking target =>
    rcases h with ⟨rfl, vacant⟩ | ⟨rfl, restarting | halted⟩
    · exact vacant.consistent (Or.inl rfl)
    · exact ⟨by simp [restarting], by simp [restarting]⟩
    · exact Supervisor.Settled.consistent (Or.inr (Or.inr halted))
  | retiring target old => exact h.2.consistent h.1
  | starting target => exact h.2.consistent h.1
  | failing e =>
    obtain ⟨target, isTarget, vacant⟩ := h
    exact vacant.consistent isTarget
  | installing target fresh => exact h.2.consistent h.1
  | discarding old => exact Supervisor.Settled.consistent (Or.inr (Or.inr h))
  | clearing o => exact Supervisor.Settled.consistent h
  | landed o => cases active
  | crashed m =>
    obtain ⟨target, isTarget, vacant⟩ := h
    exact vacant.consistent isTarget

/-- A flight can go on when the kernel was stopped. -/
theorem Fits.halted {s' : Supervisor} (h : p.Fits s) (halted : s'.Halted) : p.Fits s' := by
  have settled : s'.Settled := Or.inr (Or.inr halted)
  have vacant (target : Lifecycle) : s'.Vacant target := ⟨halted.2, Or.inr halted.1⟩
  cases p with
  | opening => exact settled
  | entering target =>
    refine ⟨settled, h.2.imp (fun same => ⟨same.1, ?_⟩) fun same => ⟨same.1, ?_⟩⟩ <;>
      simp [halted.1]
  | taking target =>
    exact h.imp (fun same => ⟨same.1, vacant target⟩) fun same => ⟨same.1, Or.inr halted⟩
  | retiring target old => exact ⟨h.1, vacant target⟩
  | starting target => exact ⟨h.1, vacant target⟩
  | failing e =>
    obtain ⟨target, isTarget, _⟩ := h
    exact ⟨target, isTarget, vacant target⟩
  | installing target fresh => exact ⟨h.1, vacant target⟩
  | discarding old => exact halted
  | clearing o => exact settled
  | landed o => trivial
  | crashed m =>
    obtain ⟨target, isTarget, _⟩ := h
    exact ⟨target, isTarget, vacant target⟩

/-- A call to the tooling takes a flight to a phase that fits as well. -/
theorem Fits.call {c : ToolingCall} {next : c.Answer → FlightPhase} (h : p.Fits s)
    (turn : p.turn = .call c next) (x : c.Answer) : (next x).Fits s := by
  cases p with
  | starting target =>
    cases turn
    cases x with
    | value fresh => exact h
    | failed e => exact ⟨target, h⟩
    | crashed m => exact ⟨target, h⟩
  | retiring target old =>
    cases old with
    | disposing c =>
      cases turn
      cases x with
      | value _ => exact h
      | failed e => exact h
      | crashed m => exact ⟨target, h⟩
    | killing c =>
      cases turn
      exact h
  | discarding old =>
    have halted : s.Halted := h
    cases old with
    | disposing c =>
      cases turn
      cases x with
      | value _ => exact Or.inr (Or.inr halted)
      | failed e => exact halted
      | crashed m => exact ⟨.starting, Or.inl rfl, halted.2, Or.inr halted.1⟩
    | killing c =>
      cases turn
      exact Or.inr (Or.inr halted)
  | _ => cases turn

theorem fits_of_landed (h : p.isLanded = true) : p.Fits s := by
  cases p with
  | landed o => trivial
  | _ => cases h

/-- A flight that takes steps has not landed, nor has it after a call to the tooling. -/
theorem active_of_locked {step : Supervisor → FlightPhase × Supervisor}
    (turn : p.turn = .locked step) : p.isLanded = false := by
  cases p with
  | landed o => cases turn
  | _ => rfl

theorem active_of_call {c : ToolingCall} {next : c.Answer → FlightPhase}
    (turn : p.turn = .call c next) (x : c.Answer) :
    p.isLanded = false ∧ (next x).isLanded = false := by
  cases p with
  | starting target =>
    cases turn
    cases x <;> exact ⟨rfl, rfl⟩
  | retiring target old =>
    cases old with
    | disposing c =>
      cases turn
      cases x <;> exact ⟨rfl, rfl⟩
    | killing c =>
      cases turn
      exact ⟨rfl, rfl⟩
  | discarding old =>
    cases old with
    | disposing c =>
      cases turn
      cases x <;> exact ⟨rfl, rfl⟩
    | killing c =>
      cases turn
      exact ⟨rfl, rfl⟩
  | _ => cases turn

/-- A flight that is over without having landed has crashed. -/
theorem crashed_of_outcome {o : FlightOutcome} (ended : p.outcome? = some o)
    (active : p.isLanded = false) : ∃ m, p = crashed m := by
  cases p with
  | crashed m => exact ⟨m, rfl⟩
  | landed o => cases active
  | _ => cases ended

/-- What a step of the supervisor does to its session. -/
inductive Succeeds (s s' : Supervisor) : Prop
  | keeps (session : s'.session = s.session) (generation : s'.generation = s.generation)
  | loses (session : s'.session = none) (generation : s'.generation = s.generation)
  | gains (before : s.session = none) (after : s'.session ≠ none)
      (generation : s'.generation = s.generation + 1)

/-- A step of the supervisor: the supervisor fits the phase that the flight comes to, and the
way is freed for the next flight just when this one has landed. -/
structure Takes (s s' : Supervisor) (p : FlightPhase) : Prop where
  fits : p.Fits s'
  settled : p.isLanded = true → s'.Settled
  pending : s'.pending = if p.isLanded then none else s.pending
  flights : s'.flights = s.flights
  succeeds : Succeeds s s'

/-- A flight takes a step of the supervisor. -/
theorem Fits.locked {step : Supervisor → FlightPhase × Supervisor} (h : p.Fits s)
    (turn : p.turn = .locked step) : Takes s (step s).2 (step s).1 := by
  cases p with
  | opening =>
    cases turn
    refine ⟨⟨h, ?_⟩, by simp [isLanded], rfl, rfl, .keeps rfl rfl⟩
    by_cases fresh : s.lifecycle = .uninitialized
    · exact Or.inl ⟨by simp [Supervisor.flightTarget, fresh], by simp [fresh]⟩
    · exact Or.inr ⟨by simp [Supervisor.flightTarget, fresh], fresh⟩
  | entering target =>
    cases turn
    obtain ⟨settled, aim⟩ := h
    cases allowed : s.lifecycle.allows target with
    | false =>
      simp only [Supervisor.move_rejected allowed]
      exact ⟨settled, by simp [isLanded], rfl, rfl, .keeps rfl rfl⟩
    | true =>
      simp only [Supervisor.move_ok allowed]
      refine ⟨?_, by simp [isLanded], rfl, rfl, .keeps rfl rfl⟩
      refine aim.imp (fun same => ⟨same.1, ?_, Or.inl rfl⟩) fun same => ⟨same.1, Or.inl rfl⟩
      rcases settled with ⟨_, none⟩ | ⟨running, _⟩ | ⟨_, none⟩
      · exact none
      · exact absurd running same.2
      · exact none
  | taking target =>
    cases turn
    have isTarget : target.IsTarget := h.imp (·.1) (·.1)
    have there : s.lifecycle = target ∨ s.lifecycle = .stopped := by
      rcases h with same | same
      · exact same.2.2
      · exact same.2.imp_right (·.1)
    cases session : s.session with
    | none =>
      simp only [Supervisor.take, session]
      exact ⟨⟨isTarget, rfl, there⟩, by simp [isLanded], rfl, rfl, .loses rfl rfl⟩
    | some old =>
      simp only [Supervisor.take, session]
      exact ⟨⟨isTarget, rfl, there⟩, by simp [isLanded], rfl, rfl, .loses rfl rfl⟩
  | failing e =>
    cases turn
    obtain ⟨target, _, none, _⟩ := h
    obtain ⟨stopped, session, pending, flights, generation⟩ := s.tryMove_stopped
    exact ⟨Or.inr (Or.inr ⟨stopped, session.trans none⟩), by simp [isLanded], pending, flights,
      .keeps session generation⟩
  | installing target fresh =>
    cases turn
    obtain ⟨isTarget, none, there⟩ := h
    simp only [Supervisor.install_eq isTarget]
    by_cases same : s.lifecycle = target
    · simp only [if_pos same]
      exact ⟨Or.inr (Or.inl ⟨rfl, by simp⟩), by simp [isLanded], rfl, rfl,
        .gains none (by simp) rfl⟩
    · simp only [if_neg same]
      exact ⟨⟨there.resolve_left same, none⟩, by simp [isLanded], rfl, rfl, .keeps rfl rfl⟩
  | clearing o =>
    cases turn
    exact ⟨trivial, fun _ => h, rfl, rfl, .keeps rfl rfl⟩
  | retiring target old => cases old <;> cases turn
  | discarding old => cases old <;> cases turn
  | _ => cases turn

end FlightPhase

/-- The only step that a stop takes is to stop. -/
theorem StopPhase.stops_of_locked {p : StopPhase} {step : Supervisor → StopPhase × Supervisor}
    {s : Supervisor} (turn : p.turn = .locked step) : (step s).2 = s.stop.2 := by
  cases p with
  | entering =>
    cases turn
    simp only
    split <;> simp_all
  | retiring old => cases old <;> cases turn
  | _ => cases turn

namespace Traffic

/-- The state of the supervisor and of the flights. A flight that has landed does not count any
more; any other is the pending one. -/
structure Sound (t : Traffic) : Prop where
  unique : (t.flights.map Prod.fst).Nodup
  known : ∀ x ∈ t.flights, x.1 < t.supervisor.flights
  fits : ∀ x ∈ t.flights, x.2.Fits t.supervisor
  pending : ∀ x ∈ t.flights, x.2.isLanded = false ↔ t.supervisor.pending = some x.1
  created : ∀ f, t.supervisor.pending = some f → f < t.supervisor.flights
  settled : t.supervisor.pending = none → t.supervisor.Settled
  /-- The pending flight has crashed. -/
  lost : ∀ f, t.supervisor.pending = some f → f ∉ t.flights.map Prod.fst →
    ∃ target : Lifecycle, target.IsTarget ∧ t.supervisor.Vacant target

namespace Sound

variable {t u : Traffic} {f : FlightId} {p : FlightPhase}
  {rest : Multiset (FlightId × FlightPhase)}

/-- The other flights have landed. -/
theorem others_landed (h : t.Sound) (flying : t.flights = (f, p) ::ₘ rest)
    (active : p.isLanded = false) : ∀ x ∈ rest, x.1 ≠ f ∧ x.2.isLanded = true := by
  intro x hx
  have unique := h.unique
  rw [flying, Multiset.map_cons, Multiset.nodup_cons] at unique
  have other : x.1 ≠ f := by
    intro same
    have inside : x.1 ∈ rest.map Prod.fst := Multiset.mem_map_of_mem Prod.fst hx
    exact unique.1 (same ▸ inside)
  refine ⟨other, ?_⟩
  have first := (h.pending (f, p) (by simp [flying])).mp active
  cases landed : x.2.isLanded with
  | true => rfl
  | false =>
    have second := (h.pending x (by simp [flying, hx])).mp landed
    rw [first] at second
    exact absurd (Option.some.inj second).symm other

theorem congr (h : t.Sound) (supervisor : u.supervisor = t.supervisor)
    (flights : u.flights = t.flights) : u.Sound := by
  obtain ⟨s, fl, _⟩ := u
  subst supervisor flights
  exact ⟨h.unique, h.known, h.fits, h.pending, h.created, h.settled, h.lost⟩

/-- The pending flight goes on. -/
theorem goesOn {s : Supervisor} {p' : FlightPhase} (h : t.Sound)
    (flying : t.flights = (f, p) ::ₘ rest) (active : p.isLanded = false)
    (takes : FlightPhase.Takes t.supervisor s p') (supervisor : u.supervisor = s)
    (flights : u.flights = (f, p') ::ₘ rest) : u.Sound := by
  have others := h.others_landed flying active
  have first : t.supervisor.pending = some f := (h.pending (f, p) (by simp [flying])).mp active
  have ids : u.flights.map Prod.fst = t.flights.map Prod.fst := by simp [flying, flights]
  have known : f < t.supervisor.flights := h.known (f, p) (by simp [flying])
  constructor
  · rw [ids]
    exact h.unique
  · intro x hx
    rw [supervisor, takes.flights]
    rw [flights, Multiset.mem_cons] at hx
    rcases hx with rfl | hx
    · exact known
    · exact h.known x (by simp [flying, hx])
  · intro x hx
    rw [supervisor]
    rw [flights, Multiset.mem_cons] at hx
    rcases hx with rfl | hx
    · exact takes.fits
    · exact FlightPhase.fits_of_landed (others x hx).2
  · intro x hx
    rw [supervisor, takes.pending, first]
    rw [flights, Multiset.mem_cons] at hx
    rcases hx with rfl | hx
    · cases p'.isLanded <;> simp
    · have other := (others x hx).1
      rw [(others x hx).2]
      cases p'.isLanded <;> simp [Ne.symm other]
  · intro g hg
    rw [supervisor, takes.pending] at hg
    rw [supervisor, takes.flights]
    split at hg
    · cases hg
    · exact h.created g hg
  · intro free
    rw [supervisor, takes.pending, first] at free
    rw [supervisor]
    split at free
    · exact takes.settled ‹_›
    · cases free
  · intro g hg gone
    rw [supervisor, takes.pending, first] at hg
    split at hg
    · cases hg
    · cases hg
      exact absurd (by simp [flights]) gone

theorem step {limit : Duration} {d : Deed} (h : t.Sound) (step : Step limit t d u) : u.Sound := by
  cases step with
  | joins pending => exact h.congr rfl rfl
  | leaves waits landed => exact h.congr rfl rfl
  | stops => exact h.congr rfl rfl
  | stopCalls going turn x => exact h.congr rfl rfl
  | stopEnds going ended => exact h.congr rfl rfl
  | @turns f p rest step flying turn =>
    have active := FlightPhase.active_of_locked turn
    have fits := h.fits (f, p) (by simp [flying])
    exact h.goesOn flying active (fits.locked turn) rfl rfl
  | @calls f p rest c next flying turn x =>
    obtain ⟨active, still⟩ := FlightPhase.active_of_call turn (c.heard limit x).answer
    have fits := (h.fits (f, p) (by simp [flying])).call turn (c.heard limit x).answer
    refine h.goesOn flying active ⟨fits, ?_, ?_, rfl, .keeps rfl rfl⟩ rfl rfl
    · simp [still]
    · simp [still]
  | creates free =>
    have landed : ∀ x ∈ t.flights, x.2.isLanded = true := by
      intro x hx
      cases landed : x.2.isLanded with
      | true => rfl
      | false =>
        have pending := (h.pending x hx).mp landed
        rw [free] at pending
        cases pending
    constructor
    · rw [Multiset.map_cons, Multiset.nodup_cons]
      refine ⟨fun member => ?_, h.unique⟩
      obtain ⟨x, hx, same⟩ := Multiset.mem_map.mp member
      exact absurd same (Nat.ne_of_lt (h.known x hx))
    · intro x hx
      rcases Multiset.mem_cons.mp hx with rfl | hx
      · exact Nat.lt_succ_self _
      · exact Nat.lt_succ_of_lt (h.known x hx)
    · intro x hx
      rcases Multiset.mem_cons.mp hx with rfl | hx
      · exact h.settled free
      · exact FlightPhase.fits_of_landed (landed x hx)
    · intro x hx
      rcases Multiset.mem_cons.mp hx with rfl | hx
      · simp [FlightPhase.isLanded]
      · simp only [landed x hx, Bool.true_eq_false, false_iff, Option.some.injEq]
        exact (Nat.ne_of_lt (h.known x hx)).symm
    · intro g hg
      cases hg
      exact Nat.lt_succ_self _
    · intro free'
      cases free'
    · intro g hg gone
      cases hg
      exact absurd (by simp) gone
  | @lands f p o rest flying ended =>
    have unique := h.unique
    rw [flying, Multiset.map_cons, Multiset.nodup_cons] at unique
    have inside : ∀ x ∈ rest, x ∈ t.flights := fun x hx => by simp [flying, hx]
    refine ⟨unique.2, fun x hx => h.known x (inside x hx), fun x hx => h.fits x (inside x hx),
      fun x hx => h.pending x (inside x hx), h.created, h.settled, fun g hg gone => ?_⟩
    by_cases same : g = f
    · subst g
      have active := (h.pending (f, p) (by simp [flying])).mpr hg
      obtain ⟨m, rfl⟩ := FlightPhase.crashed_of_outcome ended active
      exact h.fits (f, .crashed m) (by simp [flying])
    · refine h.lost g hg ?_
      rw [flying, Multiset.map_cons, Multiset.mem_cons, not_or]
      exact ⟨same, gone⟩
  | @stopTurns p rest step going turn =>
    have stopped : (step t.supervisor).2 = t.supervisor.stop.2 := StopPhase.stops_of_locked turn
    have halted := t.supervisor.stop_halts
    obtain ⟨_, _, pending, flights, _⟩ := t.supervisor.tryMove_stopped
    have samePending : t.supervisor.stop.2.pending = t.supervisor.pending := pending
    have sameFlights : t.supervisor.stop.2.flights = t.supervisor.flights := flights
    refine ⟨h.unique, fun x hx => ?_, fun x hx => ?_, fun x hx => ?_, fun g hg => ?_, fun _ => ?_,
      fun _ _ _ => ?_⟩
    · simpa [stopped, sameFlights] using h.known x hx
    · simpa [stopped] using (h.fits x hx).halted halted
    · simpa [stopped, samePending] using h.pending x hx
    · simp only [stopped, samePending] at hg
      simpa [stopped, sameFlights] using h.created g hg
    · rw [stopped]
      exact Or.inr (Or.inr halted)
    · exact ⟨.starting, Or.inl rfl, by simpa [stopped] using ⟨halted.2, Or.inr halted.1⟩⟩

theorem initial : Traffic.new.Sound where
  unique := Multiset.nodup_zero
  known := by simp [Traffic.new]
  fits := by simp [Traffic.new]
  pending := by simp [Traffic.new]
  created := by simp [Traffic.new, Supervisor.new]
  settled _ := Or.inl ⟨rfl, rfl⟩
  lost := by simp [Traffic.new, Supervisor.new]

theorem consistent (h : t.Sound) : t.supervisor.Consistent := by
  cases pending : t.supervisor.pending with
  | none => exact (h.settled pending).consistent
  | some f =>
    by_cases flying : f ∈ t.flights.map Prod.fst
    · obtain ⟨x, hx, rfl⟩ := Multiset.mem_map.mp flying
      exact (h.fits x hx).consistent ((h.pending x hx).mpr pending)
    · obtain ⟨target, isTarget, vacant⟩ := h.lost f pending flying
      exact vacant.consistent isTarget

/-- A session becomes live only where there was none, and is then counted. -/
theorem succeeds {limit : Duration} {d : Deed} (h : t.Sound) (step : Step limit t d u) :
    FlightPhase.Succeeds t.supervisor u.supervisor := by
  cases step with
  | @turns f p rest step flying turn =>
    exact ((h.fits (f, p) (by simp [flying])).locked turn).succeeds
  | @stopTurns p rest step going turn =>
    rw [show (step t.supervisor).2 = t.supervisor.stop.2 from StopPhase.stops_of_locked turn]
    obtain ⟨_, _, _, _, generation⟩ := t.supervisor.tryMove_stopped
    exact .loses rfl generation
  | joins pending => exact .keeps rfl rfl
  | creates free => exact .keeps rfl rfl
  | calls flying turn x => exact .keeps rfl rfl
  | lands flying ended => exact .keeps rfl rfl
  | leaves waits landed => exact .keeps rfl rfl
  | stops => exact .keeps rfl rfl
  | stopCalls going turn x => exact .keeps rfl rfl
  | stopEnds going ended => exact .keeps rfl rfl

end Sound

end Traffic

namespace Kernel

variable {σ : Type}

/-- The session that is live now and was not before. -/
def installed? (before after : Kernel σ) : Option SessionId :=
  if after.supervisor.session = before.supervisor.session then none
  else after.supervisor.session

/-- The sessions that become the live one in the course of a schedule. -/
def installs (k : Kernel σ) : List (Move σ) → List SessionId
  | [] => []
  | m :: moves => (k.installed? (k.move m)).toList ++ (k.move m).installs moves

theorem installs_append (k : Kernel σ) (first second : List (Move σ)) :
    k.installs (first ++ second) = k.installs first ++ (k.play first).installs second := by
  induction first generalizing k with
  | nil => rfl
  | cons m rest ih => simp [installs, ih]

/-- The generation counts the sessions that became live, and the live one is the last of them. -/
structure Counts (k : Kernel σ) (installs : List SessionId) : Prop where
  generation : k.supervisor.generation = installs.length
  last : ∀ c, k.supervisor.session = some c → installs.getLast? = some c

theorem Counts.move {k : Kernel σ} {installs : List SessionId} (h : k.Counts installs)
    (orderly : k.Orderly) (sound : k.traffic.Sound) (m : Move σ) :
    (k.move m).Counts (installs ++ (k.installed? (k.move m)).toList) := by
  have succeeds : FlightPhase.Succeeds k.supervisor (k.move m).supervisor := by
    rcases (move_traffic orderly m).cases with still | ⟨d, _, moved⟩
    · have same : (k.move m).supervisor = k.supervisor := congrArg Traffic.supervisor still
      exact .keeps (by rw [same]) (by rw [same])
    · exact sound.succeeds moved
  rcases succeeds with ⟨session, generation⟩ | ⟨session, generation⟩ | ⟨before, after, generation⟩
  · have nothing : k.installed? (k.move m) = none := if_pos session
    rw [nothing, Option.toList_none, List.append_nil]
    exact ⟨generation.trans h.generation, fun c hc => h.last c (session ▸ hc)⟩
  · have nothing : k.installed? (k.move m) = none := by
      unfold installed?
      split
      · rfl
      · exact session
    rw [nothing, Option.toList_none, List.append_nil]
    exact ⟨generation.trans h.generation, fun c hc => by simp [session] at hc⟩
  · obtain ⟨c, fresh⟩ := Option.ne_none_iff_exists'.mp after
    have one : k.installed? (k.move m) = some c := by simp [installed?, before, fresh]
    rw [one]
    refine ⟨by simp [generation, h.generation], fun d hd => ?_⟩
    rw [fresh] at hd
    cases hd
    simp

theorem play_counts (config : KernelConfig) (backend : Backend σ) (tooling : σ)
    (obedient : Bool) (moves : List (Move σ)) :
    ((new config backend tooling obedient).play moves).traffic.Sound ∧
      ((new config backend tooling obedient).play moves).Counts
        ((new config backend tooling obedient).installs moves) := by
  let k₀ := new config backend tooling obedient
  have start : k₀.Counts [] := ⟨rfl, by simp [k₀, new, Supervisor.new]⟩
  refine play_keeps_orderly (P := fun past k => k.traffic.Sound ∧ k.Counts (k₀.installs past))
    (new_orderly config backend tooling obedient) ⟨Traffic.Sound.initial, start⟩ ?_ moves
  rintro past m orderly ⟨sound, counts⟩
  refine ⟨?_, ?_⟩
  · rcases (move_traffic orderly m).cases with still | ⟨d, _, moved⟩
    · rw [still]
      exact sound
    · exact sound.step moved
  · rw [installs_append]
    simpa [installs] using counts.move orderly sound m

/-- The supervisor under every schedule. A session is live when the kernel is running, and not
when it has not been started, is being started for the first time or is stopped. The generation
counts the sessions that became live, and whoever asks for the live session gets the last of them
with its number unless the kernel is not running. A flight that is about to install its session
cannot be rejected, and only a stopped kernel rejects to be stopped. -/
theorem supervisor_states (config : KernelConfig) (backend : Backend σ) (tooling : σ)
    (obedient : Bool) (moves : List (Move σ)) :
    let k₀ := new config backend tooling obedient
    let k := k₀.play moves
    let s := k.supervisor
    (s.lifecycle = .running → s.session ≠ none ∧ 1 ≤ s.generation) ∧
    (s.lifecycle = .uninitialized ∨ s.lifecycle = .starting ∨ s.lifecycle = .stopped →
      s.session = none) ∧
    s.generation = (k₀.installs moves).length ∧
    (s.lifecycle ≠ .running ∧ s.lease? = none ∨ ∃ c, s.lease? = some ⟨c, s.generation⟩ ∧
      (k₀.installs moves)[s.generation - 1]? = some c) ∧
    (∀ f target fresh, (f, .installing target fresh) ∈ k.traffic.flights →
      ∀ e, (s.install target fresh).1 ≠ some (.error e)) ∧
    (∀ e, s.move .stopped = .error e → s.lifecycle = .stopped) := by
  intro k₀ k s
  obtain ⟨sound, counts⟩ : k.traffic.Sound ∧ k.Counts (k₀.installs moves) := play_counts ..
  have consistent : s.Consistent := sound.consistent
  have live (running : s.lifecycle = .running) :
      ∃ c, s.session = some c ∧ (k₀.installs moves).getLast? = some c := by
    obtain ⟨c, session⟩ := Option.ne_none_iff_exists'.mp (consistent.running running)
    exact ⟨c, session, counts.last c session⟩
  refine ⟨fun running => ?_, consistent.idle, counts.generation, ?_, fun f target fresh h e => ?_,
    fun e => Supervisor.stopped_of_rejected⟩
  · obtain ⟨c, session, last⟩ := live running
    refine ⟨consistent.running running, ?_⟩
    have some : k₀.installs moves ≠ [] := by
      intro none
      simp [none] at last
    have counted : s.generation = (k₀.installs moves).length := counts.generation
    have positive := List.length_pos_iff.mpr some
    omega
  · by_cases running : s.lifecycle = .running
    · obtain ⟨c, session, last⟩ := live running
      have counted : s.generation = (k₀.installs moves).length := counts.generation
      refine Or.inr ⟨c, by simp [Supervisor.lease?, running, session], ?_⟩
      rw [counted, ← List.getLast?_eq_getElem?]
      exact last
    · exact Or.inl ⟨running, by simp [Supervisor.lease?, running]⟩
  · have fits := sound.fits _ h
    rw [Supervisor.install_eq fits.1]
    by_cases same : s.lifecycle = target
    · simp [same]
    · simp [same]

end Kernel

end NotebookKernel
