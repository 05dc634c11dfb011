import NotebookKernel.Proofs.Course

/-!
# Sessions become live once

A session is started before it becomes live, and whoever started it makes it live at most once.
If the tooling starts a session of its own for everyone who asks, no session becomes live twice.
-/

namespace NotebookKernel

/-- The session that becomes the live one. -/
def Supervisor.gained (s s' : Supervisor) : Multiset SessionId :=
  if s'.session = s.session then 0 else s'.live

namespace Supervisor

variable {s s' : Supervisor}

theorem gained_of_same (h : s'.session = s.session) : s.gained s' = 0 := if_pos h

theorem gained_of_none (h : s'.session = none) : s.gained s' = 0 := by
  unfold gained
  split
  · rfl
  · simp [live, h]

theorem gained_le (s s' : Supervisor) : s.gained s' ≤ s'.live := by
  unfold gained
  split
  · exact Multiset.zero_le _
  · exact le_rfl

end Supervisor

namespace FlightPhase

variable {p q : FlightPhase} {s s' : Supervisor} {limit : Duration} {e : Errand}

/-- The session that a flight is about to make the live one. -/
def arriving : FlightPhase → Multiset SessionId
  | installing _ fresh => {fresh}
  | _ => 0

/-- A turn makes no session the live one but the one that was about to be. -/
theorem Turns.gained_le (step : Turns s p q s') : s.gained s' + q.arriving ≤ p.arriving := by
  cases step with
  | installs there =>
    refine (add_zero _).trans_le ?_
    exact Supervisor.gained_le s _
  | fails =>
    obtain ⟨_, session, _⟩ := s.tryMove_stopped
    simp [Supervisor.gained_of_same session, arriving]
  | takes live => simp [Supervisor.gained_of_none, arriving]
  | passes vacant => simp [Supervisor.gained_of_none, arriving]
  | _ => simp [Supervisor.gained_of_same, Supervisor.clear, arriving]

/-- A flight is about to make live what it was given when it asked for a session. -/
theorem Calls.arriving_le (call : Calls limit p e q) : q.arriving ≤ p.arriving + e.started := by
  cases call <;> simp [arriving, Errand.started]

theorem arriving_of_outcome {o : FlightOutcome} (ended : p.outcome? = some o) :
    p.arriving = 0 := by
  cases p with
  | landed o => rfl
  | crashed m => rfl
  | _ => cases ended

end FlightPhase

namespace Traffic

variable {t u : Traffic} {limit : Duration} {d : Deed}

/-- The sessions that flights are about to make the live one. -/
def arriving (t : Traffic) : Multiset SessionId := t.flights.bind fun x => x.2.arriving

/-- What becomes live was about to, and what is about to become live was started. -/
theorem Step.gained_le (sound : t.Sound) (step : Step limit t d u) :
    t.supervisor.gained u.supervisor + u.arriving + t.started ≤ t.arriving + u.started := by
  have still {u : Traffic} (session : u.supervisor.session = t.supervisor.session)
      (arriving : u.arriving = t.arriving) (started : t.started ≤ u.started) :
      t.supervisor.gained u.supervisor + u.arriving + t.started ≤ t.arriving + u.started := by
    rw [Supervisor.gained_of_same session, zero_add, arriving]
    exact add_le_add_right started _
  cases step with
  | joins pending => exact still rfl rfl le_rfl
  | leaves waits landed => exact still rfl rfl le_rfl
  | stops => exact still rfl rfl le_rfl
  | stopEnds going ended => exact still rfl rfl le_rfl
  | stopCalls going turn x =>
    refine still rfl rfl ?_
    simp only [started, bind_errand]
    exact Multiset.le_add_right _ _
  | creates free => exact still rfl (by simp [Traffic.arriving, FlightPhase.arriving]) le_rfl
  | @lands f p o rest flying ended =>
    exact still rfl (by simp [Traffic.arriving, flying, FlightPhase.arriving_of_outcome ended])
      le_rfl
  | stopTurns going turn =>
    have session : t.supervisor.stop.2.session = none := t.supervisor.stop_halts.2
    simp only
    rw [StopPhase.stops_of_locked turn, Supervisor.gained_of_none session, zero_add]
    exact le_rfl
  | @turns f p rest step flying turn =>
    have fits := sound.fits (f, p) (by simp [flying])
    have gained := (FlightPhase.turns_of_locked fits turn).gained_le
    simp only [Traffic.arriving, flying, Multiset.cons_bind]
    rw [← add_assoc]
    exact add_le_add_left (add_le_add_left gained _) _
  | @calls f p rest c next flying turn x =>
    have called : FlightPhase.Calls limit p ⟨c, x⟩ (next (c.heard limit x).answer) :=
      FlightPhase.calls_of_call turn x
    have arriving := called.arriving_le
    rw [Supervisor.gained_of_same rfl, zero_add]
    simp only [Traffic.arriving, started, bind_errand, flying, Multiset.cons_bind]
    calc
      _ ≤ p.arriving + Errand.started ⟨c, x⟩ + (rest.bind fun x => x.2.arriving) +
          (t.errands : Multiset Errand).bind Errand.started :=
        add_le_add_left (add_le_add_left arriving _) _
      _ = _ := by ac_rfl

end Traffic

namespace Kernel

variable {σ : Type}

theorem coe_installed (k j : Kernel σ) :
    ((k.installed? j).toList : Multiset SessionId) = k.supervisor.gained j.supervisor := by
  unfold installed? Supervisor.gained Supervisor.live
  split <;> rfl

/-- A move makes live, or about to be, only what was about to be or is started by it. -/
theorem move_gained (k : Kernel σ) (orderly : k.Orderly) (sound : k.traffic.Sound) (m : Move σ) :
    k.supervisor.gained (k.move m).supervisor + (k.move m).traffic.arriving + k.traffic.started ≤
      k.traffic.arriving + (k.move m).traffic.started := by
  rcases (move_traffic orderly m).cases with still | ⟨d, _, moved⟩
  · have same : (k.move m).supervisor.session = k.supervisor.session :=
      congrArg (fun t : Traffic => t.supervisor.session) still
    rw [Supervisor.gained_of_same same, zero_add, still]
  · exact moved.gained_le sound

/-- Whatever became live, or is about to, was started. -/
theorem installs_started (config : KernelConfig) (backend : Backend σ) (tooling : σ)
    (obedient : Bool) (moves : List (Move σ)) :
    (((new config backend tooling obedient).installs moves : List SessionId) :
        Multiset SessionId) +
        ((new config backend tooling obedient).play moves).traffic.arriving ≤
      ((new config backend tooling obedient).play moves).traffic.started := by
  generalize start : new config backend tooling obedient = k₀
  have orderly : k₀.Orderly := start ▸ new_orderly config backend tooling obedient
  have nothing : (k₀.installs [] : Multiset SessionId) + k₀.traffic.arriving ≤
      k₀.traffic.started := by
    rw [← start]
    exact le_rfl
  refine play_keeps_orderly
    (P := fun past k => (k₀.installs past : Multiset SessionId) + k.traffic.arriving ≤
      k.traffic.started) orderly nothing ?_ moves
  intro past m tidy counted
  have sound : (k₀.play past).traffic.Sound :=
    start ▸ (play_counts config backend tooling obedient past).1
  have gained := move_gained (k₀.play past) tidy sound m
  rw [installs_append, ← Multiset.coe_add]
  simp only [installs, List.append_nil]
  rw [coe_installed]
  refine Multiset.le_iff_count.mpr fun c => ?_
  have before := Multiset.le_iff_count.mp counted c
  have step := Multiset.le_iff_count.mp gained c
  simp only [Multiset.count_add] at before step ⊢
  omega

/-- If the tooling starts a session of its own whenever it is asked, none becomes live twice. -/
theorem installs_nodup (config : KernelConfig) (backend : Backend σ) (tooling : σ)
    (obedient : Bool) (moves : List (Move σ))
    (fresh : ((new config backend tooling obedient).play moves).traffic.started.Nodup) :
    ((new config backend tooling obedient).installs moves).Nodup := by
  have started := installs_started config backend tooling obedient moves
  have le := (Multiset.le_add_right _ _).trans started
  exact Multiset.coe_nodup.mp (Multiset.nodup_of_le le fresh)

end Kernel

end NotebookKernel
