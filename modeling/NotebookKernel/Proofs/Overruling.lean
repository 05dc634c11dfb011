import NotebookKernel.Proofs.Outcome
import NotebookKernel.Tooling.Scripted

/-!
# Stops overrule flights

A flight remembers the state to which it moved the lifecycle and installs its session only
if it finds the lifecycle there. A stop in between moves the lifecycle away, and nothing
brings it back: the flight still has the way, so that no other flight can move the lifecycle
before this one is over.
-/

namespace NotebookKernel

/-- A flight has asked for a session once it was answered. -/
theorem started_append {es : List Deed} {d : Deed}
    (h : es.filterMap Deed.started? ≠ [] ∨ d.started? ≠ none) :
    (es ++ [d]).filterMap Deed.started? ≠ [] := by
  rw [List.filterMap_append]
  intro empty
  obtain ⟨before, last⟩ := List.append_eq_nil_iff.mp empty
  rcases h with started | now
  · exact started before
  · cases answer : d.started? with
    | none => exact now answer
    | some a => simp [answer] at last

namespace FlightPhase

/-- The flight has moved the lifecycle, and it has yet to look whether it may install a session. -/
def HasEntered : FlightPhase → Prop
  | taking _ | retiring _ _ | starting _ | failing _ | installing _ _ => True
  | _ => False

/-- A flight that was overruled by a stop, in a kernel of this generation. -/
def Overruled (generation : Nat) (es : List Deed) (s : Supervisor) : FlightPhase → Prop
  | opening | entering _ => False
  | taking _ | retiring _ _ | starting _ | crashed _ => s.Halted ∧ s.generation = generation
  | failing _ | installing _ _ | discarding _ =>
      (s.Halted ∧ s.generation = generation) ∧ es.filterMap Deed.started? ≠ []
  | clearing o => (s.Halted ∧ s.generation = generation) ∧
      es.filterMap Deed.started? ≠ [] ∧ ∃ e, o = .error e
  | landed o => es.filterMap Deed.started? ≠ [] ∧ ∃ e, o = .error e

theorem Overruled.halted {n : Nat} {es : List Deed} {s : Supervisor} {p : FlightPhase}
    (h : p.Overruled n es s) (active : p.isLanded = false) : s.Halted ∧ s.generation = n := by
  cases p with
  | opening | entering => exact h.elim
  | taking | retiring | starting | crashed => exact h
  | failing | installing | discarding | clearing => exact h.1
  | landed o => cases active

/-- Nothing that the flight or another stop does helps a flight that was overruled. -/
theorem kept_overruled (limit : Duration) (f : FlightId) (n : Nat) :
    Aspect.Kept limit (fun _ => True) f fun es s p => p.Overruled n es s where
  turns := by
    intro es s p q s' overruled fits step
    cases step with
    | opens | enters _ | isRejected _ => exact overruled.elim
    | takes live => cases live.symm.trans overruled.1.2
    | passes _ => exact ⟨⟨overruled.1.1, rfl⟩, overruled.2⟩
    | fails =>
      obtain ⟨⟨halted, generation⟩, started⟩ := overruled
      obtain ⟨stopped, session, _, _, same⟩ := s.tryMove_stopped
      exact ⟨⟨⟨stopped, session.trans halted.2⟩, same.trans generation⟩,
        started_append (Or.inl started), _, rfl⟩
    | installs there =>
      -- The stop has moved the lifecycle away, and stopped is no state that a flight aims at.
      rw [overruled.1.1.1] at there
      rcases fits.1 with same | same
      · cases there.trans same
      · cases there.trans same
    | isOverruled _ => exact ⟨overruled.1, started_append (Or.inl overruled.2)⟩
    | clears => exact ⟨started_append (Or.inl overruled.2.1), overruled.2.2⟩
  calls := by
    intro es s p e q overruled call _
    cases call with
    | starts | startFails => exact ⟨overruled, started_append (Or.inr (by simp [Deed.started?]))⟩
    | startCrashes | retires _ | retireFails _ | retireCrashes _ | retireKills => exact overruled
    | discardFails _ => exact ⟨overruled.1, started_append (Or.inl overruled.2)⟩
    | discardCrashes _ => exact overruled.1
    | discards _ | discardKills =>
      exact ⟨overruled.1, started_append (Or.inl overruled.2), .notRunning, rfl⟩
  halted := by
    intro es s p overruled _ _
    have stops (before : s.Halted ∧ s.generation = n) :
        s.stop.2.Halted ∧ s.stop.2.generation = n :=
      ⟨s.stop_halts, s.tryMove_stopped.2.2.2.2.trans before.2⟩
    cases p with
    | opening | entering => exact overruled.elim
    | taking | retiring | starting | crashed => exact stops overruled
    | failing | installing | discarding | clearing => exact ⟨stops overruled.1, overruled.2⟩
    | landed o => exact overruled
  landed _ overruled := overruled

/-- A step of a flight makes no session the live one, but for the one it installs. -/
theorem Turns.session {p q : FlightPhase} {s s' : Supervisor} (step : Turns s p q s')
    (f : FlightId) {c : SessionId} (live : s'.session = some c) :
    s.session = some c ∨ (Deed.turns f p q).installed? = some c := by
  cases step with
  | installs there => exact Or.inr live
  | takes old | passes vacant => cases live
  | fails => exact Or.inl (s.tryMove_stopped.2.1.symm.trans live)
  | _ => exact Or.inl live

end FlightPhase

namespace Traffic

variable {t u : Traffic} {limit : Duration} {d : Deed} {ds : List Deed}

/-- The live session was installed by a flight. -/
theorem Step.live_installed (step : Step limit t d u) (sound : t.Sound)
    (h : ∀ c, t.supervisor.session = some c → ∃ e ∈ ds, e.installed? = some c) :
    ∀ c, u.supervisor.session = some c → ∃ e ∈ ds ++ [d], e.installed? = some c := by
  have before {c : SessionId} (live : t.supervisor.session = some c) :
      ∃ e ∈ ds ++ [d], e.installed? = some c := by
    obtain ⟨e, he, installed⟩ := h c live
    exact ⟨e, List.mem_append_left _ he, installed⟩
  intro c live
  cases step with
  | @turns f p rest step flying turn =>
    have fits := sound.fits (f, p) (by simp [flying])
    rcases (FlightPhase.turns_of_locked fits turn).session f live with old | installed
    · exact before old
    · exact ⟨_, by simp, installed⟩
  | stopTurns going turn =>
    rw [StopPhase.stops_of_locked turn] at live
    cases live
  | _ => exact before live

/-- A stop leaves the flights as they are. -/
theorem Step.of_halts (step : Step limit t .halts u) :
    u.flights = t.flights ∧ u.landings = t.landings ∧ u.supervisor = t.supervisor.stop.2 := by
  cases step with
  | stopTurns going turn => exact ⟨rfl, rfl, StopPhase.stops_of_locked turn⟩

end Traffic

/-- Whoever gets a lease gets the live session. -/
theorem Supervisor.session_of_lease {s : Supervisor} {l : Lease} (h : l ∈ s.lease?) :
    s.session = some l.session := by
  unfold lease? at h
  split at h
  · obtain ⟨c, session, rfl⟩ := Option.map_eq_some_iff.mp h
    exact session
  · cases h

theorem Deed.flight_of_installed {d : Deed} {c : SessionId} (h : d.installed? = some c) :
    ∃ f, d.flight? = some f := by
  cases d with
  | turns f before after => exact ⟨f, rfl⟩
  | _ => cases h

namespace Kernel

variable {σ : Type} {k : Kernel σ}

/-- The live session was installed by a flight, at every moment. -/
theorem play_live_installed (config : KernelConfig) (backend : Backend σ) (tooling : σ)
    (obedient : Bool) (moves : List (Move σ)) (c : SessionId)
    (live : ((new config backend tooling obedient).play moves).supervisor.session = some c) :
    ∃ e ∈ (new config backend tooling obedient).deeds moves, e.installed? = some c := by
  have both := play_deeds (P := fun ds t => t.Sound ∧
      ∀ c, t.supervisor.session = some c → ∃ e ∈ ds, e.installed? = some c)
    (new_orderly config backend tooling obedient) ⟨.initial, fun c live => by cases live⟩
    (fun _ _ _ h step => ⟨h.1.step step, step.live_installed h.1 h.2⟩) moves
  exact both.2 c live

/-- What is left of a flight from the moment at which a stop overrules it. -/
theorem play_overruled {config : KernelConfig} {backend : Backend σ} {tooling : σ}
    {obedient : Bool} {earlier : List (Move σ)} (later : List (Move σ)) {i : Nat} {f : FlightId}
    {p : FlightPhase}
    (flying : (f, p) ∈ ((new config backend tooling obedient).play earlier).traffic.flights)
    (entered : p.HasEntered)
    (stop : ((new config backend tooling obedient).play earlier).deed? (.go i) = some .halts) :
    let k₀ := new config backend tooling obedient
    let moves := earlier ++ .go i :: later
    (k₀.play moves).traffic.Carries
      (fun es s p => p.Logged config.disposeTimeout es s ∧
        p.Overruled (k₀.play earlier).supervisor.generation es s) f
      (deedsBy f (k₀.deeds moves)) := by
  intro k₀ moves
  have start : k₀.Proper := new_proper config backend tooling obedient
  let k := k₀.play earlier
  let k₁ := k₀.play (earlier ++ [.go i])
  let did := deedsBy f (k₀.deeds (earlier ++ [.go i]))
  have proper : k₁.Proper := start.play _
  have config₁ : k₁.config = config := play_config start.orderly _
  have halts : k₁.traffic.flights = k.traffic.flights ∧ k₁.traffic.landings = k.traffic.landings ∧
      k₁.traffic.supervisor = k.supervisor.stop.2 := by
    have moved := move_traffic (start.play earlier).orderly (.go i)
    rw [stop] at moved
    have same : k₁ = k.move (.go i) := by simp [k₁, k]
    rw [same]
    exact moved.of_halts
  have flying₁ : (f, p) ∈ k₁.traffic.flights := halts.1 ▸ flying
  have logged := (play_logged config backend tooling obedient (earlier ++ [.go i]) f).flying p
    flying₁
  have overruled : p.Overruled k.supervisor.generation did k₁.traffic.supervisor := by
    have stopped : k₁.traffic.supervisor.Halted ∧
        k₁.traffic.supervisor.generation = k.supervisor.generation := by
      rw [halts.2.2]
      exact ⟨k.supervisor.stop_halts, k.supervisor.tryMove_stopped.2.2.2.2⟩
    cases p with
    | taking | retiring | starting => exact stopped
    | failing e => exact ⟨stopped, Log.started logged ▸ List.cons_ne_nil _ _⟩
    | installing target fresh => exact ⟨stopped, Log.started logged ▸ List.cons_ne_nil _ _⟩
    | _ => exact entered.elim
  have carries := proper.play_carries (· = f) (fun _ => did)
    (I := fun _ es s p => p.Logged config.disposeTimeout es s ∧
      p.Overruled k.supervisor.generation es s)
    (fun g _ => by
      rw [config₁]
      exact (FlightPhase.kept_logged _ g).and (FlightPhase.kept_overruled _ g _))
    (fun g hg unknown => absurd (proper.regular.sound.known _ flying₁)
      (Nat.not_lt_of_le (hg ▸ unknown)))
    (fun g hg => by
      subst hg
      refine ⟨fun q hq => ?_, fun o arrived => (proper.regular.not_both flying₁ arrived).elim⟩
      obtain rfl := proper.regular.sound.phase_unique flying₁ hq
      exact ⟨logged, overruled⟩)
    later (fun _ _ => trivial) f rfl
  have split : moves = (earlier ++ [.go i]) ++ later := by simp [moves]
  rw [split, play_append, deeds_append, deedsBy_append]
  exact carries

/-- A stop that takes its step after a flight has moved the lifecycle, and before the flight
looks whether it may install a session, overrules the flight. If nothing crashes, the flight
ends with the error of the tooling, or it closes the session that it started and is told that
the kernel is not running. Until then the kernel stays stopped, in the same generation and
without a session, and the session of the flight is live at no time. -/
theorem stop_overrules {config : KernelConfig} {backend : Backend σ} {tooling : σ}
    {obedient : Bool} {earlier later : List (Move σ)} {i : Nat} {f : FlightId} {p : FlightPhase}
    (flying : (f, p) ∈ ((new config backend tooling obedient).play earlier).traffic.flights)
    (entered : p.HasEntered)
    (stop : ((new config backend tooling obedient).play earlier).deed? (.go i) = some .halts)
    (calm : ∀ d ∈ (new config backend tooling obedient).deeds (earlier ++ .go i :: later),
      ¬d.Crashes config.disposeTimeout) :
    let k₀ := new config backend tooling obedient
    let moves := earlier ++ .go i :: later
    let t := (k₀.play moves).traffic
    let ds := k₀.deeds moves
    (∀ q, (f, q) ∈ t.flights → q.isLanded = false →
      t.supervisor.lifecycle = .stopped ∧ t.supervisor.session = none ∧
        t.supervisor.generation = (k₀.play earlier).supervisor.generation) ∧
    (∀ o, (f, o) ∈ t.landings ∨ .returns f o ∈ ds →
      (∃ e, startsBy f ds = [.failed e] ∧ o = .error e) ∨
      ∃ c, startsBy f ds = [.value c] ∧ c ∈ closedBy f ds ∧ o = .error .notRunning) ∧
    (11 ≤ (deedsBy f ((k₀.play earlier).deeds (.go i :: later))).length →
      ∃ o, (f, o) ∈ t.landings) ∧
    (∀ c, .value c ∈ startsBy f ds → (∀ g, .value c ∈ startsBy g ds → g = f) →
      ∀ early, early <+: moves → ∀ l ∈ (k₀.play early).supervisor.lease?, l.session ≠ c) := by
  intro k₀ moves t ds
  have start : k₀.Proper := new_proper config backend tooling obedient
  have regular : t.Regular := (start.play moves).regular
  have carries := play_overruled later flying entered stop
  have calmly : ¬∃ d ∈ deedsBy f ds, d.Crashes config.disposeTimeout :=
    fun ⟨d, hd, crash⟩ => calm d (List.mem_of_mem_filter hd) crash
  have fails {o : FlightOutcome} (arrived : (f, o) ∈ t.landings) :
      startsBy f ds ≠ [] ∧ ∃ e, o = .error e := by
    obtain ⟨past, s, p, did, ended, logged, overruled⟩ := carries.arrived o arrived
    cases p with
    | landed o' =>
      cases ended
      refine ⟨?_, overruled.2⟩
      rw [startsBy, did]
      exact started_append (Or.inl overruled.1)
    | crashed m =>
      obtain ⟨⟨d, hd, crash⟩, _⟩ := logged
      exact (calmly ⟨d, did ▸ List.mem_append_left _ hd, crash⟩).elim
    | _ => cases ended
  refine ⟨fun q hq active => ?_, fun o ended => ?_, fun often => ?_, fun c started alone early
    before l lease same => ?_⟩
  · obtain ⟨⟨stopped, none⟩, generation⟩ := (carries.flying q hq).2.halted active
    exact ⟨stopped, none, generation⟩
  · have arrived : (f, o) ∈ t.landings := ended.elim id (start.returns moves)
    have concludes := (play_logged config backend tooling obedient moves f).concludes arrived
    cases concludes.resolve_right fun crashed => calmly crashed.1 with
    | rejected e log => exact ((fails arrived).1 log.started).elim
    | failed e log => exact Or.inl ⟨e, log.started, rfl⟩
    | installed c g log =>
      obtain ⟨e, impossible⟩ := (fails arrived).2
      cases impossible
    | overruled c log closed => exact Or.inr ⟨c, log.started, closed, rfl⟩
  · have created := (start.play earlier).regular.sound.known _ flying
    have lands := (start.play earlier).flight_lands created (.go i :: later) often
    rwa [← play_append] at lands
  · subst same
    have live := Supervisor.session_of_lease lease
    obtain ⟨e, he, installed⟩ := play_live_installed config backend tooling obedient early _ live
    obtain ⟨rest, split⟩ := before
    have done : e ∈ ds := by
      simp only [ds, ← split, deeds_append]
      exact List.mem_append_left _ he
    obtain ⟨g, own⟩ := Deed.flight_of_installed installed
    have mine : l.session ∈ (deedsBy g ds).filterMap Deed.installed? :=
      List.mem_filterMap.mpr ⟨e, List.mem_filter.mpr ⟨done, by simp [own]⟩, installed⟩
    have created : g < t.supervisor.flights := start.play_knows moves e done g own
    obtain ⟨given, generation, succeeded⟩ :=
      (play_logged config backend tooling obedient moves g).installed regular created mine
    -- The session was given to one flight only, so it is the overruled one that installed it.
    obtain rfl : g = f := alone g (by rw [startsBy, given]; simp)
    rcases succeeded with arrived | clearing | landed
    · obtain ⟨e, impossible⟩ := (fails arrived).2
      cases impossible
    · obtain ⟨_, _, e, impossible⟩ := (carries.flying _ clearing).2
      cases impossible
    · obtain ⟨_, e, impossible⟩ := (carries.flying _ landed).2
      cases impossible

/-- A kernel with scripted tooling that does not fail. -/
def rehearsal : Kernel Script := new .standard Script.backend {} true

/-- The first restart is about to start a session, and a stop is about to take its step. -/
def stopDuringStart : List (Move Script) :=
  [.restart 0, .go 0, .go 1, .go 1, .go 1, .stop 1, .go 2]

/-- The flight goes on after the stop, and then whoever called for the restart. -/
def overruledStart : List (Move Script) := [.go 1, .go 1, .go 1, .go 1, .go 1, .go 0]

theorem start_overruled :
    (rehearsal.play (stopDuringStart ++ .go 2 :: overruledStart)).landings =
        [(0, .error .notRunning)] ∧
      1 ∈ closedBy 0 (rehearsal.deeds (stopDuringStart ++ .go 2 :: overruledStart)) ∧
      ∀ early, early <+: stopDuringStart ++ .go 2 :: overruledStart →
        ∀ l ∈ (rehearsal.play early).supervisor.lease?, l.session ≠ 1 := by
  have flights : (rehearsal.play stopDuringStart).traffic.flights =
      {(0, .starting .starting)} := rfl
  have flying : (0, .starting .starting) ∈ (rehearsal.play stopDuringStart).traffic.flights := by
    rw [flights]
    exact Multiset.mem_singleton_self _
  have did : rehearsal.deeds (stopDuringStart ++ .go 2 :: overruledStart) =
      [.joins 0 true, .turns 0 .opening (.entering .starting),
        .turns 0 (.entering .starting) (.taking .starting),
        .turns 0 (.taking .starting) (.starting .starting), .stops, .halts,
        .calls 0 ⟨.start, .now (.value 1)⟩,
        .turns 0 (.installing .starting 1) (.discarding (.disposing 1)),
        .calls 0 ⟨.dispose 1, .now (.value ())⟩,
        .turns 0 (.clearing (.error .notRunning)) (.landed (.error .notRunning)),
        .lands 0 (.error .notRunning), .returns 0 (.error .notRunning)] := rfl
  have calm : ∀ d ∈ rehearsal.deeds (stopDuringStart ++ .go 2 :: overruledStart),
      ¬d.Crashes KernelConfig.standard.disposeTimeout := by
    rw [did]
    simp [Deed.Crashes, ToolingCall.heard, Timed.now, Timed.within]
  have landings : (rehearsal.play (stopDuringStart ++ .go 2 :: overruledStart)).landings =
      [(0, .error .notRunning)] := rfl
  have started : startsBy 0 (rehearsal.deeds (stopDuringStart ++ .go 2 :: overruledStart)) =
      [.value 1] := rfl
  have alone : ∀ g, .value 1 ∈ startsBy g
      (rehearsal.deeds (stopDuringStart ++ .go 2 :: overruledStart)) → g = 0 := by
    intro g given
    by_contra other
    rw [did] at given
    simp [startsBy, deedsBy, Deed.flight?, Ne.symm other] at given
  obtain ⟨_, ends, _, never⟩ := stop_overrules flying trivial rfl calm
  refine ⟨landings, ?_, never 1 (started ▸ List.mem_singleton_self _) alone⟩
  have arrived : (0, .error .notRunning) ∈
      (rehearsal.play (stopDuringStart ++ .go 2 :: overruledStart)).landings := by
    rw [landings]
    exact List.mem_singleton_self _
  rcases ends _ (Or.inl arrived) with ⟨e, failed, _⟩ | ⟨c, given, closed, _⟩
  · cases started.symm.trans failed
  · cases started.symm.trans given
    exact closed

end Kernel

end NotebookKernel
