import NotebookKernel.Proofs.Deeds

/-!
# The course of a flight

A flight goes on by its own turns and calls. Other flights have landed and do not concern
it; only stops step in. What its turns, its calls and stops keep is therefore kept under
every schedule. A flight has a bounded number of things to do, starts at most one session,
and its outcome can be read off what it has done.
-/

namespace NotebookKernel

namespace Deed

/-- The flight that does it. -/
def flight? : Deed → Option FlightId
  | turns f _ _ => some f
  | calls f _ => some f
  | lands f _ => some f
  | _ => none

/-- What comes of it if a session is to be started. -/
def started? : Deed → Option (Outcome SessionId)
  | calls _ ⟨.start, x⟩ => some x.answer
  | _ => none

/-- The session that a flight asks to close. -/
def closed? : Deed → Option SessionId
  | calls _ ⟨.dispose c, _⟩ => some c
  | _ => none

/-- The session that a flight makes the live one. -/
def installed? : Deed → Option SessionId
  | turns _ (.installing _ c) (.clearing (.ok _)) => some c
  | _ => none

/-- A call of a flight crashes. A session that is given up cannot crash any more. -/
def Crashes (limit : Duration) : Deed → Prop
  | calls _ ⟨.start, x⟩ => ∃ m, x.answer = .crashed m
  | calls _ ⟨.dispose c, x⟩ => ∃ m, ((ToolingCall.dispose c).heard limit x).answer = .crashed m
  | _ => False

end Deed

/-- What one flight does. -/
def deedsBy (f : FlightId) (ds : List Deed) : List Deed := ds.filter fun d => d.flight? == some f

/-- What the tooling answered when the flight asked for a session. -/
def startsBy (f : FlightId) (ds : List Deed) : List (Outcome SessionId) :=
  (deedsBy f ds).filterMap Deed.started?

/-- The sessions that the flight asked to close. -/
def closedBy (f : FlightId) (ds : List Deed) : List SessionId :=
  (deedsBy f ds).filterMap Deed.closed?

@[simp] theorem deedsBy_nil (f : FlightId) : deedsBy f [] = [] := rfl

@[simp] theorem deedsBy_append (f : FlightId) (ds es : List Deed) :
    deedsBy f (ds ++ es) = deedsBy f ds ++ deedsBy f es := List.filter_append ..

theorem startsBy_append (f : FlightId) (ds es : List Deed) :
    startsBy f (ds ++ es) = startsBy f ds ++ startsBy f es := by
  rw [startsBy, deedsBy_append, List.filterMap_append]
  rfl

theorem startsBy_subset (f : FlightId) (ds : List Deed) :
    startsBy f ds ⊆ ds.filterMap Deed.started? := by
  intro a given
  obtain ⟨d, own, answer⟩ := List.mem_filterMap.mp given
  exact List.mem_filterMap.mpr ⟨d, List.mem_of_mem_filter own, answer⟩

theorem deedsBy_self {f : FlightId} {d : Deed} (own : d.flight? = some f) :
    deedsBy f [d] = [d] := by
  simp [deedsBy, own]

theorem deedsBy_other {f : FlightId} {d : Deed} (other : d.flight? ≠ some f) :
    deedsBy f [d] = [] := by
  simp [deedsBy, other]

namespace FlightPhase

/-- The steps of the supervisor that a flight takes: the phases before and after, and what
becomes of the supervisor. -/
inductive Turns (s : Supervisor) : FlightPhase → FlightPhase → Supervisor → Prop
  | opens : Turns s opening (entering s.flightTarget) s
  | enters {target : Lifecycle} (allowed : s.lifecycle.allows target = true) :
      Turns s (entering target) (taking target)
        { s with lifecycle := target, moves := s.moves + 1 }
  | isRejected {target : Lifecycle} (forbidden : s.lifecycle.allows target = false) :
      Turns s (entering target) (clearing (.error (.lifecycle ⟨s.lifecycle, target⟩))) s
  | takes {target : Lifecycle} {old : SessionId} (live : s.session = some old) :
      Turns s (taking target) (retiring target (.disposing old)) { s with session := none }
  | passes {target : Lifecycle} (vacant : s.session = none) :
      Turns s (taking target) (starting target) { s with session := none }
  | fails {e : ToolingError} : Turns s (failing e) (clearing (.error e)) (s.tryMove .stopped)
  | installs {target : Lifecycle} {fresh : SessionId} (there : s.lifecycle = target) :
      Turns s (installing target fresh) (clearing (.ok (s.generation + 1)))
        { s with
          lifecycle := .running, session := some fresh, generation := s.generation + 1,
          moves := s.moves + 1 }
  | isOverruled {target : Lifecycle} {fresh : SessionId} (elsewhere : s.lifecycle ≠ target) :
      Turns s (installing target fresh) (discarding (.disposing fresh)) s
  | clears {o : FlightOutcome} : Turns s (clearing o) (landed o) s.clear

/-- The calls of a flight to the tooling, with the phases before and after. -/
inductive Calls (limit : Duration) : FlightPhase → Errand → FlightPhase → Prop
  | starts {target : Lifecycle} {delay : Option Nat} {c : SessionId} :
      Calls limit (starting target) ⟨.start, ⟨delay, .value c⟩⟩ (installing target c)
  | startFails {target : Lifecycle} {delay : Option Nat} {e : ToolingError} :
      Calls limit (starting target) ⟨.start, ⟨delay, .failed e⟩⟩ (failing e)
  | startCrashes {target : Lifecycle} {delay : Option Nat} {m : Option String} :
      Calls limit (starting target) ⟨.start, ⟨delay, .crashed m⟩⟩ (crashed m)
  | retires {target : Lifecycle} {c : SessionId} {x : Timed (Outcome Unit)}
      (heard : ((ToolingCall.dispose c).heard limit x).answer = .value ()) :
      Calls limit (retiring target (.disposing c)) ⟨.dispose c, x⟩ (starting target)
  | retireFails {target : Lifecycle} {c : SessionId} {x : Timed (Outcome Unit)} {e : ToolingError}
      (heard : ((ToolingCall.dispose c).heard limit x).answer = .failed e) :
      Calls limit (retiring target (.disposing c)) ⟨.dispose c, x⟩ (retiring target (.killing c))
  | retireCrashes {target : Lifecycle} {c : SessionId} {x : Timed (Outcome Unit)}
      {m : Option String} (heard : ((ToolingCall.dispose c).heard limit x).answer = .crashed m) :
      Calls limit (retiring target (.disposing c)) ⟨.dispose c, x⟩ (crashed m)
  | retireKills {target : Lifecycle} {c : SessionId} {x : Timed Unit} :
      Calls limit (retiring target (.killing c)) ⟨.kill c, x⟩ (starting target)
  | discards {c : SessionId} {x : Timed (Outcome Unit)}
      (heard : ((ToolingCall.dispose c).heard limit x).answer = .value ()) :
      Calls limit (discarding (.disposing c)) ⟨.dispose c, x⟩ (clearing (.error .notRunning))
  | discardFails {c : SessionId} {x : Timed (Outcome Unit)} {e : ToolingError}
      (heard : ((ToolingCall.dispose c).heard limit x).answer = .failed e) :
      Calls limit (discarding (.disposing c)) ⟨.dispose c, x⟩ (discarding (.killing c))
  | discardCrashes {c : SessionId} {x : Timed (Outcome Unit)} {m : Option String}
      (heard : ((ToolingCall.dispose c).heard limit x).answer = .crashed m) :
      Calls limit (discarding (.disposing c)) ⟨.dispose c, x⟩ (crashed m)
  | discardKills {c : SessionId} {x : Timed Unit} :
      Calls limit (discarding (.killing c)) ⟨.kill c, x⟩ (clearing (.error .notRunning))

variable {p q : FlightPhase} {s s' : Supervisor} {limit : Duration} {e : Errand}

/-- These are all the steps there are. -/
theorem turns_of_locked {step : Supervisor → FlightPhase × Supervisor} (fits : p.Fits s)
    (turn : p.turn = .locked step) : Turns s p (step s).1 (step s).2 := by
  cases p with
  | opening =>
    cases turn
    exact .opens
  | entering target =>
    cases turn
    cases allowed : s.lifecycle.allows target with
    | false =>
      simp only [Supervisor.move_rejected allowed]
      exact .isRejected allowed
    | true =>
      simp only [Supervisor.move_ok allowed]
      exact .enters allowed
  | taking target =>
    cases turn
    cases session : s.session with
    | none =>
      simp only [Supervisor.take, session]
      exact .passes session
    | some old =>
      simp only [Supervisor.take, session]
      exact .takes session
  | failing e =>
    cases turn
    exact .fails
  | installing target fresh =>
    cases turn
    simp only [Supervisor.install_eq fits.1]
    by_cases there : s.lifecycle = target
    · simp only [if_pos there]
      exact .installs there
    · simp only [if_neg there]
      exact .isOverruled there
  | clearing o =>
    cases turn
    exact .clears
  | retiring target old => cases old <;> cases turn
  | discarding old => cases old <;> cases turn
  | _ => cases turn

/-- These are all the calls there are. -/
theorem calls_of_call {c : ToolingCall} {next : c.Answer → FlightPhase}
    (turn : p.turn = .call c next) (x : Timed c.Answer) :
    Calls limit p ⟨c, x⟩ (next (c.heard limit x).answer) := by
  cases p with
  | starting target =>
    cases turn
    obtain ⟨delay, answer⟩ := x
    cases answer with
    | value c => exact .starts
    | failed e => exact .startFails
    | crashed m => exact .startCrashes
  | retiring target old =>
    cases old with
    | disposing c =>
      cases turn
      cases heard : ((ToolingCall.dispose c).heard limit x).answer with
      | value _ => exact .retires heard
      | failed e => exact .retireFails heard
      | crashed m => exact .retireCrashes heard
    | killing c =>
      cases turn
      exact .retireKills
  | discarding old =>
    cases old with
    | disposing c =>
      cases turn
      cases heard : ((ToolingCall.dispose c).heard limit x).answer with
      | value _ => exact .discards heard
      | failed e => exact .discardFails heard
      | crashed m => exact .discardCrashes heard
    | killing c =>
      cases turn
      exact .discardKills
  | _ => cases turn

/-- A flight has landed when it has freed the way, and not before. -/
theorem Turns.isLanded_eq (step : Turns s p q s') :
    p.isLanded = false ∧ (q.isLanded = true ↔ ∃ o, p = clearing o) := by
  cases step <;> simp [isLanded]

theorem Calls.isLanded_eq (call : Calls limit p e q) : p.isLanded = false ∧ q.isLanded = false := by
  cases call <;> exact ⟨rfl, rfl⟩

/-- A flight crashes with a call that crashes. -/
theorem Calls.crashes_iff (call : Calls limit p e q) (f : FlightId) :
    (Deed.calls f e).Crashes limit ↔ ∃ m, q = crashed m := by
  cases call <;> simp_all [Deed.Crashes]

end FlightPhase

/-- A statement about a flight: what it has done, the supervisor, and the phase. -/
abbrev Aspect := List Deed → Supervisor → FlightPhase → Prop

/-- The aspect is kept along the course of a flight, as long as only what is allowed is done. -/
structure Aspect.Kept (limit : Duration) (allowed : Deed → Prop) (f : FlightId) (I : Aspect) :
    Prop where
  turns : ∀ {es s p q s'}, I es s p → p.Fits s → FlightPhase.Turns s p q s' →
    I (es ++ [.turns f p q]) s' q
  calls : ∀ {es s p e q}, I es s p → FlightPhase.Calls limit p e q → allowed (.calls f e) →
    I (es ++ [.calls f e]) s q
  halted : ∀ {es s p}, I es s p → p.Fits s → allowed .halts → I es s.stop.2 p
  /-- A flight that has landed is no longer concerned. -/
  landed : ∀ {es s o} (s' : Supervisor), I es s (.landed o) → I es s' (.landed o)

theorem Aspect.Kept.and {limit : Duration} {allowed : Deed → Prop} {f : FlightId} {I J : Aspect}
    (h : I.Kept limit allowed f) (h' : J.Kept limit allowed f) :
    Aspect.Kept limit allowed f fun es s p => I es s p ∧ J es s p where
  turns held fits step := ⟨h.turns held.1 fits step, h'.turns held.2 fits step⟩
  calls held call ok := ⟨h.calls held.1 call ok, h'.calls held.2 call ok⟩
  halted held fits ok := ⟨h.halted held.1 fits ok, h'.halted held.2 fits ok⟩
  landed s' held := ⟨h.landed s' held.1, h'.landed s' held.2⟩

namespace Traffic

variable {t u : Traffic} {limit : Duration} {d : Deed} {f : FlightId}

/-- The aspect holds while the flight is on its way, and held when it landed. -/
structure Carries (I : Aspect) (f : FlightId) (es : List Deed) (t : Traffic) : Prop where
  flying : ∀ p, (f, p) ∈ t.flights → I es t.supervisor p
  arrived : ∀ o, (f, o) ∈ t.landings → ∃ past s p,
    es = past ++ [.lands f o] ∧ p.outcome? = some o ∧ I past s p

theorem Sound.phase_unique (h : t.Sound) {p q : FlightPhase} (first : (f, p) ∈ t.flights)
    (second : (f, q) ∈ t.flights) : p = q :=
  congrArg Prod.snd (Multiset.inj_on_of_nodup_map h.unique _ first _ second rfl)

theorem Regular.not_both (h : t.Regular) {p : FlightPhase} {o : FlightOutcome}
    (flying : (f, p) ∈ t.flights) (arrived : (f, o) ∈ t.landings) : False :=
  (h.attended.landed _ arrived).2 (Multiset.mem_map_of_mem Prod.fst flying)

/-- Flights are only ever added. -/
theorem Step.flights_le (sound : t.Sound) (step : Step limit t d u) :
    t.supervisor.flights ≤ u.supervisor.flights := by
  cases step with
  | creates free => exact Nat.le_succ _
  | @turns f p rest step flying turn =>
    exact ((sound.fits (f, p) (by simp [flying])).locked turn).flights.ge
  | stopTurns going turn =>
    rw [StopPhase.stops_of_locked turn]
    exact t.supervisor.tryMove_stopped.2.2.2.1.ge
  | _ => exact le_rfl

/-- Only flights that are on their way do anything. -/
theorem Step.doer_flies (step : Step limit t d u) (own : d.flight? = some f) :
    ∃ p, (f, p) ∈ t.flights := by
  cases step with
  | @turns g p rest step flying turn =>
    cases own
    exact ⟨p, by simp [flying]⟩
  | @calls g p rest c next flying turn x =>
    cases own
    exact ⟨p, by simp [flying]⟩
  | @lands g p o rest flying ended =>
    cases own
    exact ⟨p, by simp [flying]⟩
  | _ => cases own

/-- Whoever has done something has been created. -/
def Knows (t : Traffic) (ds : List Deed) : Prop :=
  ∀ d ∈ ds, ∀ f, d.flight? = some f → f < t.supervisor.flights

theorem Knows.step {ds : List Deed} (h : t.Knows ds) (sound : t.Sound) (step : Step limit t d u) :
    u.Knows (ds ++ [d]) := by
  have grows := step.flights_le sound
  intro e he f own
  rcases List.mem_append.mp he with old | new
  · exact (h e old f own).trans_le grows
  · cases List.mem_singleton.mp new
    obtain ⟨p, flying⟩ := step.doer_flies own
    exact (sound.known _ flying).trans_le grows

/-- A flight that has yet to be created has done nothing. -/
theorem Knows.idle {ds : List Deed} (h : t.Knows ds) (unknown : t.supervisor.flights ≤ f) :
    deedsBy f ds = [] := by
  refine List.filter_eq_nil_iff.mpr fun d hd own => ?_
  exact absurd (h d hd f (by simpa using own)) (Nat.not_lt_of_le unknown)

variable {I : Aspect} {es : List Deed} {allowed : Deed → Prop}

/-- What happens to a flight that has been created. -/
theorem Carries.step (h : t.Carries I f es) (kept : I.Kept limit allowed f) (regular : t.Regular)
    (known : f < t.supervisor.flights) (step : Step limit t d u) (ok : allowed d) :
    u.Carries I f (es ++ deedsBy f [d]) := by
  have regular' : u.Regular := regular.step step
  cases step with
  | joins pending => simpa [deedsBy, Deed.flight?] using ⟨h.flying, h.arrived⟩
  | leaves waits landed => simpa [deedsBy, Deed.flight?] using ⟨h.flying, h.arrived⟩
  | stops => simpa [deedsBy, Deed.flight?] using ⟨h.flying, h.arrived⟩
  | stopCalls going turn x => simpa [deedsBy, Deed.flight?] using ⟨h.flying, h.arrived⟩
  | stopEnds going ended => simpa [deedsBy, Deed.flight?] using ⟨h.flying, h.arrived⟩
  | stopTurns going turn =>
    rw [deedsBy_other (by simp [Deed.flight?]), List.append_nil]
    refine ⟨fun p hp => ?_, h.arrived⟩
    rw [StopPhase.stops_of_locked turn]
    exact kept.halted (h.flying p hp) (regular.sound.fits _ hp) ok
  | creates free =>
    rw [deedsBy_other (by simp [Deed.flight?]), List.append_nil]
    refine ⟨fun p hp => ?_, h.arrived⟩
    rcases Multiset.mem_cons.mp hp with new | old
    · cases new
      exact absurd known (Nat.lt_irrefl _)
    · cases p with
      | landed o => exact kept.landed _ (h.flying _ old)
      | _ =>
        have pending := (regular.sound.pending _ old).mp rfl
        rw [free] at pending
        cases pending
  | @turns g q rest step flying turn =>
    have there : (g, q) ∈ t.flights := by simp [flying]
    have active := FlightPhase.active_of_locked turn
    have fits := regular.sound.fits _ there
    by_cases own : g = f
    · subst g
      rw [deedsBy_self rfl]
      refine ⟨fun p hp => ?_, fun o ho => (regular.not_both there ho).elim⟩
      obtain rfl := regular'.sound.phase_unique hp (Multiset.mem_cons_self _ _)
      exact kept.turns (h.flying q there) fits (FlightPhase.turns_of_locked fits turn)
    · rw [deedsBy_other (by simpa [Deed.flight?] using own), List.append_nil]
      refine ⟨fun p hp => ?_, h.arrived⟩
      have other : (f, p) ∈ rest :=
        (Multiset.mem_cons.mp hp).resolve_left fun same => own (congrArg Prod.fst same).symm
      have landed := (regular.sound.others_landed flying active _ other).2
      cases p with
      | landed o => exact kept.landed _ (h.flying _ (by simp [flying, other]))
      | _ => cases landed
  | @calls g q rest c next flying turn x =>
    have there : (g, q) ∈ t.flights := by simp [flying]
    by_cases own : g = f
    · subst g
      rw [deedsBy_self rfl]
      refine ⟨fun p hp => ?_, fun o ho => (regular.not_both there ho).elim⟩
      obtain rfl := regular'.sound.phase_unique hp (Multiset.mem_cons_self _ _)
      exact kept.calls (h.flying q there) (FlightPhase.calls_of_call turn x) ok
    · rw [deedsBy_other (by simpa [Deed.flight?] using own), List.append_nil]
      refine ⟨fun p hp => ?_, h.arrived⟩
      have other : (f, p) ∈ rest :=
        (Multiset.mem_cons.mp hp).resolve_left fun same => own (congrArg Prod.fst same).symm
      exact h.flying p (by simp [flying, other])
  | @lands g q o rest flying ended =>
    have there : (g, q) ∈ t.flights := by simp [flying]
    by_cases own : g = f
    · subst g
      rw [deedsBy_self rfl]
      refine ⟨fun p hp => ?_, fun o' ho => ?_⟩
      · exact (regular'.not_both hp (List.mem_append_right _ (List.mem_singleton_self _))).elim
      · rcases List.mem_append.mp ho with old | new
        · exact (regular.not_both there old).elim
        · cases List.mem_singleton.mp new
          exact ⟨es, t.supervisor, q, rfl, ended, h.flying q there⟩
    · rw [deedsBy_other (by simpa [Deed.flight?] using own), List.append_nil]
      refine ⟨fun p hp => h.flying p (by simp [flying, hp]), fun o' ho => ?_⟩
      rcases List.mem_append.mp ho with old | new
      · exact h.arrived o' old
      · cases List.mem_singleton.mp new
        exact absurd rfl own

/-- What happens to a flight that has yet to be created. -/
theorem Carries.created (opens : ∀ s : Supervisor, s.Settled → I [] s .opening)
    (regular : t.Regular) (unknown : t.supervisor.flights ≤ f) (step : Step limit t d u) :
    deedsBy f [d] = [] ∧ u.Carries I f [] := by
  have regular' : u.Regular := regular.step step
  have absent (p : FlightPhase) : (f, p) ∉ t.flights := fun flying =>
    absurd (regular.sound.known _ flying) (Nat.not_lt_of_le unknown)
  have idle : d.flight? ≠ some f := fun own => (step.doer_flies own).elim absent
  have unlanded (o : FlightOutcome) : (f, o) ∉ u.landings := by
    intro landed
    cases step with
    | @lands g q o' rest flying ended =>
      rcases List.mem_append.mp landed with old | new
      · exact absurd (regular.attended.landed _ old).1 (Nat.not_lt_of_le unknown)
      · cases List.mem_singleton.mp new
        exact absent q (by simp [flying])
    | _ => exact absurd (regular.attended.landed _ landed).1 (Nat.not_lt_of_le unknown)
  refine ⟨deedsBy_other idle, fun p hp => ?_, fun o landed => (unlanded o landed).elim⟩
  cases step with
  | creates free =>
    rcases Multiset.mem_cons.mp hp with new | old
    · cases new
      exact opens _ (regular.sound.settled free)
    · exact (absent p old).elim
  | @turns g q rest step flying turn =>
    rcases Multiset.mem_cons.mp hp with new | old
    · cases new
      exact (absent q (by simp [flying])).elim
    · exact (absent p (by simp [flying, old])).elim
  | @calls g q rest c next flying turn x =>
    rcases Multiset.mem_cons.mp hp with new | old
    · cases new
      exact (absent q (by simp [flying])).elim
    · exact (absent p (by simp [flying, old])).elim
  | lands flying ended => exact (absent p (by simp [flying, hp])).elim
  | _ => exact (absent p hp).elim

end Traffic

namespace Kernel

variable {σ : Type} {k : Kernel σ} {allowed : Deed → Prop} {I : FlightId → Aspect}

/-- What is kept along the course of each of some flights holds of them after every schedule in
which only what is allowed is done. -/
theorem Proper.play_carries (proper : k.Proper) (mine : FlightId → Prop)
    (past : FlightId → List Deed)
    (kept : ∀ f, mine f → (I f).Kept k.config.disposeTimeout allowed f)
    (opens : ∀ f, mine f → k.supervisor.flights ≤ f →
      past f = [] ∧ ∀ s : Supervisor, s.Settled → I f [] s .opening)
    (start : ∀ f, mine f → k.traffic.Carries (I f) f (past f)) (moves : List (Move σ))
    (ok : ∀ d ∈ k.deeds moves, allowed d) :
    ∀ f, mine f → (k.play moves).traffic.Carries (I f) f (past f ++ deedsBy f (k.deeds moves)) := by
  have all : k.supervisor.flights ≤ (k.play moves).traffic.supervisor.flights ∧
      (k.play moves).traffic.Regular ∧ (k.play moves).traffic.Knows (k.deeds moves) ∧
        ((∀ d ∈ k.deeds moves, allowed d) → ∀ f, mine f →
          (k.play moves).traffic.Carries (I f) f (past f ++ deedsBy f (k.deeds moves))) := by
    refine play_deeds (P := fun ds t => k.supervisor.flights ≤ t.supervisor.flights ∧
      t.Regular ∧ t.Knows ds ∧ ((∀ d ∈ ds, allowed d) → ∀ f, mine f →
        t.Carries (I f) f (past f ++ deedsBy f ds))) proper.orderly ?_ ?_ moves
    · exact ⟨le_rfl, proper.regular, by simp [Traffic.Knows], fun _ f hf => by
        simpa using start f hf⟩
    · intro d ds t u ⟨more, regular, knows, held⟩ step
      refine ⟨more.trans (step.flights_le regular.sound), regular.step step,
        knows.step regular.sound step, fun ok f hf => ?_⟩
      have carries := held (fun d hd => ok d (List.mem_append_left _ hd)) f hf
      rw [deedsBy_append, ← List.append_assoc]
      -- A flight that is not known yet has no record, and begins one when it is created.
      by_cases known : f < t.supervisor.flights
      · exact carries.step (kept f hf) regular known step (ok d (by simp))
      · have unknown := Nat.le_of_not_lt known
        obtain ⟨nothing, opened⟩ := opens f hf (more.trans unknown)
        obtain ⟨still, created⟩ := Traffic.Carries.created opened regular unknown step
        rw [knows.idle unknown, nothing, still]
        exact created
  exact all.2.2.2 ok

/-- Whoever has done something in a schedule has been created. -/
theorem Proper.play_knows (proper : k.Proper) (moves : List (Move σ)) :
    (k.play moves).traffic.Knows (k.deeds moves) :=
  (play_deeds (P := fun ds t => t.Regular ∧ t.Knows ds) proper.orderly
    ⟨proper.regular, by simp [Traffic.Knows]⟩
    (fun _ _ _ h step => ⟨h.1.step step, h.2.step h.1.sound step⟩) moves).2

/-- An aspect that every flight begins with and keeps holds of all flights at all times. -/
theorem play_carries_all (config : KernelConfig) (backend : Backend σ) (tooling : σ)
    (obedient : Bool) (kept : ∀ f, (I f).Kept config.disposeTimeout (fun _ => True) f)
    (opens : ∀ f, ∀ s : Supervisor, s.Settled → I f [] s .opening) (moves : List (Move σ))
    (f : FlightId) :
    ((new config backend tooling obedient).play moves).traffic.Carries (I f) f
      (deedsBy f ((new config backend tooling obedient).deeds moves)) :=
  (new_proper config backend tooling obedient).play_carries (fun _ => True) (fun _ => [])
    (fun f _ => kept f) (fun f _ _ => ⟨rfl, opens f⟩)
    (fun _ _ => ⟨by simp [traffic, trafficOf, new], by simp [traffic, trafficOf, new]⟩) moves
    (fun _ _ => trivial) f trivial

end Kernel

/-- A flight that was created stays known. -/
theorem Kernel.Proper.still_created {σ : Type} {k : Kernel σ} (proper : k.Proper) {f : FlightId}
    (created : f < k.supervisor.flights) (moves : List (Move σ)) :
    f < (k.play moves).supervisor.flights :=
  (play_deeds (P := fun _ t => t.Regular ∧ f < t.supervisor.flights) proper.orderly
    ⟨proper.regular, created⟩ (fun _ _ _ h step => ⟨h.1.step step,
      h.2.trans_le (step.flights_le h.1.sound)⟩) moves).2

/-! ## Progress -/

namespace FlightPhase

/-- How many things a flight has to do at most until it is over. -/
def remaining : FlightPhase → Nat
  | opening => 11
  | entering _ => 10
  | taking _ => 9
  | retiring _ (.disposing _) => 8
  | retiring _ (.killing _) => 7
  | starting _ => 6
  | installing _ _ => 5
  | discarding (.disposing _) => 4
  | discarding (.killing _) => 3
  | failing _ => 3
  | clearing _ => 2
  | landed _ => 1
  | crashed _ => 1

variable {p q : FlightPhase} {s s' : Supervisor} {limit : Duration} {e : Errand}

theorem remaining_pos (p : FlightPhase) : 0 < p.remaining := by
  cases p with
  | retiring target old => cases old <;> simp [remaining]
  | discarding old => cases old <;> simp [remaining]
  | _ => simp [remaining]

theorem remaining_le (p : FlightPhase) : p.remaining ≤ 11 := by
  cases p with
  | retiring target old => cases old <;> simp [remaining]
  | discarding old => cases old <;> simp [remaining]
  | _ => simp [remaining]

theorem Turns.remaining_lt (step : Turns s p q s') : q.remaining < p.remaining := by
  cases step <;> simp [remaining]

theorem Calls.remaining_lt (call : Calls limit p e q) : q.remaining < p.remaining := by
  cases call <;> simp [remaining]

/-- What a flight has done and what it has left to do is limited together. -/
theorem kept_remaining (limit : Duration) (f : FlightId) (n : Nat) :
    Aspect.Kept limit (fun _ => True) f fun es _ p => es.length + p.remaining ≤ n where
  turns bounded _ step := by
    have less := step.remaining_lt
    simp only [List.length_append, List.length_singleton]
    omega
  calls bounded call _ := by
    have less := call.remaining_lt
    simp only [List.length_append, List.length_singleton]
    omega
  halted bounded _ _ := bounded
  landed _ bounded := bounded

end FlightPhase

/-- A flight that is let go on often enough is over. -/
theorem Kernel.Proper.flight_lands {σ : Type} {k : Kernel σ} (proper : k.Proper) {f : FlightId}
    (created : f < k.supervisor.flights) (moves : List (Move σ))
    (often : 11 ≤ (deedsBy f (k.deeds moves)).length) :
    ∃ o, (f, o) ∈ (k.play moves).landings := by
  rcases proper.regular.flies_or_landed created with ⟨p, flying⟩ | ⟨o, arrived⟩
  · have start : k.traffic.Carries (fun es _ p => es.length + p.remaining ≤ 11) f [] :=
      ⟨fun q _ => by simpa using q.remaining_le, fun o arrived =>
        (proper.regular.not_both flying arrived).elim⟩
    have carries := proper.play_carries (· = f) (fun _ => [])
      (fun g _ => FlightPhase.kept_remaining _ g 11)
      (fun g hg unknown => absurd (hg ▸ created) (Nat.not_lt_of_le unknown))
      (fun g hg => hg ▸ start) moves (fun _ _ => trivial) f rfl
    rcases (proper.play moves).regular.flies_or_landed (proper.still_created created moves)
      with ⟨q, still⟩ | landed
    · have bound := carries.flying q still
      have positive := q.remaining_pos
      simp only [List.nil_append] at bound
      omega
    · exact landed
  · exact ⟨o, (proper.landings moves).subset arrived⟩

/-- With each thing that a flight does it comes nearer to its end. -/
theorem Traffic.Step.nears {t u : Traffic} {limit : Duration} {d : Deed} (step : Step limit t d u)
    (sound : t.Sound) {f : FlightId} {p : FlightPhase} (flying : (f, p) ∈ t.flights)
    (own : d.flight? = some f) :
    (∃ o, (f, o) ∈ u.landings) ∨ ∃ q, (f, q) ∈ u.flights ∧ q.remaining < p.remaining := by
  cases step with
  | @turns g p' rest step flies turn =>
    cases own
    obtain rfl : p = p' := sound.phase_unique flying (by simp [flies])
    exact Or.inr ⟨_, Multiset.mem_cons_self _ _,
      (FlightPhase.turns_of_locked (sound.fits _ flying) turn).remaining_lt⟩
  | @calls g p' rest c next flies turn x =>
    cases own
    obtain rfl : p = p' := sound.phase_unique flying (by simp [flies])
    have called : FlightPhase.Calls limit p ⟨c, x⟩ _ := FlightPhase.calls_of_call turn x
    exact Or.inr ⟨_, Multiset.mem_cons_self _ _, called.remaining_lt⟩
  | lands flies ended =>
    cases own
    exact Or.inl ⟨_, List.mem_append_right _ (List.mem_singleton_self _)⟩
  | _ => cases own

namespace Kernel.Proper

variable {σ : Type} {k : Kernel σ} {f : FlightId}

/-- A flight that is on its way has a strand of its own, which can always go on. -/
theorem flight_goes (proper : k.Proper) {p : FlightPhase} (flying : (f, p) ∈ k.traffic.flights) :
    ∃ (i : Nat) (s : Strand), k.strands[i]? = some s ∧ s.loop = none ∧
      ((∃ o, (f, o) ∈ (k.move (.go i)).landings) ∨
        ∃ q, (f, q) ∈ (k.move (.go i)).traffic.flights ∧ q.remaining < p.remaining) := by
  obtain ⟨s, member, flies⟩ := List.mem_filterMap.mp (Multiset.mem_coe.mp flying)
  obtain ⟨i, found⟩ := List.getElem?_of_mem member
  have work : s.work = .flying f p := by
    cases at_ : s.work <;> simp_all [Work.flight?]
  have loop : s.loop = none := by
    have stays := proper.orderly s member
    rwa [work] at stays
  have deed : ∃ d, k.deed? (.go i) = some d ∧ d.flight? = some f := by
    simp only [deed?, found, Option.bind_some, work, deedOf?]
    cases ended : p.outcome? with
    | some o => exact ⟨_, rfl, rfl⟩
    | none =>
      cases turn : p.turn with
      | locked step | call c next => exact ⟨_, rfl, rfl⟩
      | finished => exact absurd turn (FlightPhase.turn_ne_finished ended)
  obtain ⟨d, did, own⟩ := deed
  have moved := move_traffic proper.orderly (.go i)
  rw [did] at moved
  exact ⟨i, s, found, loop, moved.nears proper.regular.sound flying own⟩

end Kernel.Proper

end NotebookKernel
