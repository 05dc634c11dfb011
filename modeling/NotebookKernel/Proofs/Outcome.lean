import NotebookKernel.Proofs.Course

/-!
# How flights end

The outcome of a flight can be read off what it has done. It was rejected at the beginning,
or it started one session. If that failed, the error is the outcome; if not, the flight
made the session the live one, or was overruled by a stop and asked the session to close.
Only a crash leaves the outcome open.
-/

namespace NotebookKernel

/-- What the flight was answered when it asked for sessions, and which it made the live one. -/
structure Log (es : List Deed) (answers : List (Outcome SessionId)) (live : List SessionId) :
    Prop where
  started : es.filterMap Deed.started? = answers
  installed : es.filterMap Deed.installed? = live

/-- How a flight that has done this has to end. -/
inductive Concludes (es : List Deed) : FlightOutcome → Prop
  | rejected (e : LifecycleError) (log : Log es [] []) : Concludes es (.error (.lifecycle e))
  | failed (e : ToolingError) (log : Log es [.failed e] []) : Concludes es (.error e)
  | installed (c : SessionId) (generation : Nat) (log : Log es [.value c] [c]) :
      Concludes es (.ok generation)
  | overruled (c : SessionId) (log : Log es [.value c] [])
      (closed : c ∈ es.filterMap Deed.closed?) : Concludes es (.error .notRunning)

/-- What a flight has done when it has come to a phase. -/
def FlightPhase.Logged (limit : Duration) (es : List Deed) (_ : Supervisor) : FlightPhase → Prop
  | opening | entering _ | taking _ | retiring _ _ | starting _ => Log es [] []
  | installing _ fresh => Log es [.value fresh] []
  | failing e => Log es [.failed e] []
  | discarding (.disposing c) => Log es [.value c] []
  | discarding (.killing c) => Log es [.value c] [] ∧ c ∈ es.filterMap Deed.closed?
  | clearing o | landed o => Concludes es o
  | crashed _ => (∃ d ∈ es, d.Crashes limit) ∧
      ∃ answers, answers.length ≤ 1 ∧ Log es answers []

/-- A deed that is not recorded. -/
theorem filterMap_keep {α : Type} {g : Deed → Option α} {d : Deed} (none : g d = none)
    (es : List Deed) : (es ++ [d]).filterMap g = es.filterMap g := by
  simp [List.filterMap_append, none]

theorem crashes_append {limit : Duration} {d : Deed} (h : d.Crashes limit) (es : List Deed) :
    ∃ e ∈ es ++ [d], e.Crashes limit := ⟨d, by simp, h⟩

namespace Log

variable {es : List Deed} {answers : List (Outcome SessionId)} {live : List SessionId} {d : Deed}

theorem append (h : Log es answers live) (d : Deed) :
    Log (es ++ [d]) (answers ++ d.started?.toList) (live ++ d.installed?.toList) where
  started := by
    rw [List.filterMap_append, h.started]
    cases started : d.started? <;> simp [started]
  installed := by
    rw [List.filterMap_append, h.installed]
    cases installed : d.installed? <;> simp [installed]

/-- A deed that neither starts a session nor makes one the live one. -/
theorem keep (h : Log es answers live) (started : d.started? = none)
    (installed : d.installed? = none) : Log (es ++ [d]) answers live :=
  ⟨(filterMap_keep started es).trans h.started, (filterMap_keep installed es).trans h.installed⟩

end Log

theorem Concludes.keep {es : List Deed} {o : FlightOutcome} {d : Deed} (h : Concludes es o)
    (started : d.started? = none) (installed : d.installed? = none) :
    Concludes (es ++ [d]) o := by
  cases h with
  | rejected e log => exact .rejected e (log.keep started installed)
  | failed e log => exact .failed e (log.keep started installed)
  | installed c g log => exact .installed c g (log.keep started installed)
  | overruled c log closed =>
    refine .overruled c (log.keep started installed) ?_
    rw [List.filterMap_append]
    exact List.mem_append_left _ closed

namespace FlightPhase

theorem kept_logged (limit : Duration) (f : FlightId) :
    Aspect.Kept limit (fun _ => True) f (Logged limit) where
  turns logged _ step := by
    cases step with
    | opens | enters _ | takes _ | passes _ | isOverruled _ => exact Log.keep logged rfl rfl
    | isRejected _ => exact .rejected _ (Log.keep logged rfl rfl)
    | fails => exact .failed _ (Log.keep logged rfl rfl)
    | installs _ => exact .installed _ _ (Log.append logged _)
    | clears => exact Concludes.keep logged rfl rfl
  calls := by
    intro es s p e q logged call _
    have asked (c : SessionId) (x : Timed (Outcome Unit)) :
        c ∈ (es ++ [Deed.calls f ⟨.dispose c, x⟩]).filterMap Deed.closed? := by
      simp [Deed.closed?, List.filterMap_append]
    have crash (m : Option String) (lost : q = crashed m) :
        ∃ d ∈ es ++ [Deed.calls f e], d.Crashes limit :=
      crashes_append ((call.crashes_iff f).mpr ⟨m, lost⟩) es
    cases call with
    | starts | startFails => exact Log.append logged _
    | startCrashes => exact ⟨crash _ rfl, _, le_rfl, Log.append logged _⟩
    | retires _ | retireFails _ | retireKills => exact Log.keep logged rfl rfl
    | retireCrashes _ => exact ⟨crash _ rfl, [], Nat.zero_le _, Log.keep logged rfl rfl⟩
    | discards _ => exact .overruled _ (Log.keep logged rfl rfl) (asked _ _)
    | discardFails _ => exact ⟨Log.keep logged rfl rfl, asked _ _⟩
    | discardCrashes _ => exact ⟨crash _ rfl, _, le_rfl, Log.keep logged rfl rfl⟩
    | discardKills =>
      refine .overruled _ (Log.keep logged.1 rfl rfl) ?_
      rw [List.filterMap_append]
      exact List.mem_append_left _ logged.2
  halted := by
    intro es s p logged _ _
    cases p with
    | discarding old => cases old <;> exact logged
    | _ => exact logged
  landed _ logged := logged

/-- A flight asks for one session at most. -/
theorem Logged.started_le {limit : Duration} {es : List Deed} {s : Supervisor} {p : FlightPhase}
    (h : p.Logged limit es s) : (es.filterMap Deed.started?).length ≤ 1 := by
  have one {answers live} (log : Log es answers live) (few : answers.length ≤ 1) :
      (es.filterMap Deed.started?).length ≤ 1 := log.started ▸ few
  have concluded {o : FlightOutcome} (h : Concludes es o) :
      (es.filterMap Deed.started?).length ≤ 1 := by
    cases h with
    | rejected e log => exact one log (Nat.zero_le _)
    | failed e log => exact one log le_rfl
    | installed c g log => exact one log le_rfl
    | overruled c log closed => exact one log le_rfl
  cases p with
  | opening | entering | taking | retiring | starting => exact one h (Nat.zero_le _)
  | installing target fresh => exact one h le_rfl
  | failing e => exact one h le_rfl
  | discarding old =>
    cases old with
    | disposing c => exact one h le_rfl
    | killing c => exact one h.1 le_rfl
  | clearing o => exact concluded h
  | landed o => exact concluded h
  | crashed m =>
    obtain ⟨_, answers, few, log⟩ := h
    exact one log few

/-- A session becomes the live one only in a flight that was given it. -/
theorem Logged.installed {limit : Duration} {es : List Deed} {s : Supervisor} {p : FlightPhase}
    (h : p.Logged limit es s) {c : SessionId} (live : c ∈ es.filterMap Deed.installed?) :
    es.filterMap Deed.started? = [.value c] ∧
      (∃ g, p = clearing (.ok g) ∨ p = landed (.ok g)) := by
  have none {answers} (log : Log es answers []) : False := by
    rw [log.installed] at live
    cases live
  have concluded {o : FlightOutcome} (h : Concludes es o) :
      es.filterMap Deed.started? = [.value c] ∧ ∃ g, o = .ok g := by
    cases h with
    | rejected e log => exact (none log).elim
    | failed e log => exact (none log).elim
    | installed c' g log =>
      rw [log.installed, List.mem_singleton] at live
      exact ⟨live ▸ log.started, g, rfl⟩
    | overruled c log closed => exact (none log).elim
  cases p with
  | opening | entering | taking | retiring | starting | installing | failing =>
    exact (none h).elim
  | discarding old =>
    cases old with
    | disposing c => exact (none h).elim
    | killing c => exact (none h.1).elim
  | clearing o =>
    obtain ⟨started, g, rfl⟩ := concluded h
    exact ⟨started, g, Or.inl rfl⟩
  | landed o =>
    obtain ⟨started, g, rfl⟩ := concluded h
    exact ⟨started, g, Or.inr rfl⟩
  | crashed m =>
    obtain ⟨_, answers, _, log⟩ := h
    exact (none log).elim

end FlightPhase

namespace Traffic

variable {t : Traffic} {limit : Duration} {f : FlightId} {es : List Deed}

theorem Carries.started_le (h : t.Carries (FlightPhase.Logged limit) f es) (regular : t.Regular)
    (idle : t.supervisor.flights ≤ f → es = []) : (es.filterMap Deed.started?).length ≤ 1 := by
  by_cases created : f < t.supervisor.flights
  · rcases regular.flies_or_landed created with ⟨p, flying⟩ | ⟨o, arrived⟩
    · exact (h.flying p flying).started_le
    · obtain ⟨past, s, p, rfl, _, logged⟩ := h.arrived o arrived
      rw [filterMap_keep rfl]
      exact logged.started_le
  · simp [idle (Nat.le_of_not_lt created)]

/-- A flight that is over without a crash ended as what it did says. -/
theorem Carries.concludes (h : t.Carries (FlightPhase.Logged limit) f es) {o : FlightOutcome}
    (arrived : (f, o) ∈ t.landings) :
    Concludes es o ∨ (∃ d ∈ es, d.Crashes limit) ∧ es.filterMap Deed.installed? = [] := by
  obtain ⟨past, s, p, rfl, ended, logged⟩ := h.arrived o arrived
  cases p with
  | landed o' =>
    cases ended
    exact Or.inl (Concludes.keep logged rfl rfl)
  | crashed m =>
    obtain ⟨⟨d, hd, crash⟩, answers, _, log⟩ := logged
    exact Or.inr ⟨⟨d, List.mem_append_left _ hd, crash⟩, (log.keep rfl rfl).installed⟩
  | _ => cases ended

/-- A flight that made a session the live one was given it, and cannot fail any more. -/
theorem Carries.installed (h : t.Carries (FlightPhase.Logged limit) f es) (regular : t.Regular)
    (created : f < t.supervisor.flights) {c : SessionId}
    (live : c ∈ es.filterMap Deed.installed?) :
    es.filterMap Deed.started? = [.value c] ∧ ∃ g, (f, .ok g) ∈ t.landings ∨
      (f, .clearing (.ok g)) ∈ t.flights ∨ (f, .landed (.ok g)) ∈ t.flights := by
  rcases regular.flies_or_landed created with ⟨p, flying⟩ | ⟨o, arrived⟩
  · obtain ⟨given, g, rfl | rfl⟩ := (h.flying p flying).installed live
    · exact ⟨given, g, Or.inr (Or.inl flying)⟩
    · exact ⟨given, g, Or.inr (Or.inr flying)⟩
  · obtain ⟨past, s, p, rfl, ended, logged⟩ := h.arrived o arrived
    rw [filterMap_keep rfl] at live ⊢
    obtain ⟨given, g, rfl | rfl⟩ := logged.installed live
    · cases ended
    · cases ended
      exact ⟨given, g, Or.inl arrived⟩

end Traffic

namespace Kernel

variable {σ : Type}

/-- What every flight has done is logged, at all times. -/
theorem play_logged (config : KernelConfig) (backend : Backend σ) (tooling : σ)
    (obedient : Bool) (moves : List (Move σ)) (f : FlightId) :
    ((new config backend tooling obedient).play moves).traffic.Carries
      (FlightPhase.Logged config.disposeTimeout) f
      (deedsBy f ((new config backend tooling obedient).deeds moves)) :=
  play_carries_all (I := fun _ => FlightPhase.Logged config.disposeTimeout) config backend tooling
    obedient (fun f => FlightPhase.kept_logged _ f) (fun _ _ _ => ⟨rfl, rfl⟩) moves f

end Kernel

end NotebookKernel
