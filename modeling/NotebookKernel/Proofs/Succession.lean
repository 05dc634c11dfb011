import NotebookKernel.Proofs.Revival

/-!
# The generation that a restart is told

A flight comes to its outcome in one step and keeps it until everyone who waits has been told. If
it succeeds, the outcome is the generation that begins with this very step. So whoever calls for a
restart is told of a generation that begins after the call, unless the flight that the call joins
has come to its outcome already and has only yet to free the way. Then nothing is replaced, and
what is told is the generation of the call.
-/

namespace NotebookKernel

namespace FlightPhase

/-- The outcome, once the flight has come to it. -/
def decided? : FlightPhase → Option FlightOutcome
  | clearing o => some o
  | landed o => some o
  | _ => none

variable {p q : FlightPhase} {s s' : Supervisor} {limit : Duration} {e : Errand}
  {o : FlightOutcome} {g : Nat}

theorem Turns.stays_decided (step : Turns s p q s') (h : p.decided? = some o) :
    q.decided? = some o := by
  cases step with
  | clears => exact h
  | _ => cases h

/-- A flight succeeds by beginning the next generation. -/
theorem Turns.decides (step : Turns s p q s') (h : q.decided? = some (.ok g)) :
    p.decided? = some (.ok g) ∨
      q = clearing (.ok g) ∧ g = s.generation + 1 ∧ s'.generation = g := by
  cases step with
  | installs there =>
    cases h
    exact Or.inr ⟨rfl, rfl, rfl⟩
  | clears => exact Or.inl h
  | _ => cases h

theorem Calls.undecided (call : Calls limit p e q) : p.decided? = none := by
  cases call <;> rfl

/-- No flight succeeds by what it is answered. -/
theorem Calls.not_success (call : Calls limit p e q) : q.decided? ≠ some (.ok g) := by
  cases call <;> simp [decided?]

/-- A flight that is over has come to its outcome, unless it has crashed. -/
theorem decided_of_outcome (ended : p.outcome? = some (.ok g)) : p = landed (.ok g) := by
  cases p with
  | landed o =>
    cases ended
    rfl
  | _ => cases ended

end FlightPhase

namespace Traffic

variable {t u : Traffic} {limit : Duration} {d : Deed} {f : FlightId} {o o' : FlightOutcome}
  {g : Nat}

/-- The flight has come to this outcome. -/
def Decided (t : Traffic) (f : FlightId) (o : FlightOutcome) : Prop :=
  (∃ p, (f, p) ∈ t.flights ∧ p.decided? = some o) ∨ (f, o) ∈ t.landings

theorem Decided.known (h : t.Decided f o) (regular : t.Regular) : f < t.supervisor.flights := by
  rcases h with ⟨p, flying, _⟩ | landed
  · exact regular.sound.known _ flying
  · exact (regular.attended.landed _ landed).1

/-- A flight comes to one outcome. -/
theorem Decided.unique (h : t.Decided f o) (h' : t.Decided f o') (regular : t.Regular) :
    o = o' := by
  rcases h with ⟨p, flying, decided⟩ | landed
  · rcases h' with ⟨q, flying', decided'⟩ | landed'
    · obtain rfl := regular.sound.phase_unique flying flying'
      exact Option.some.inj (decided.symm.trans decided')
    · exact (regular.not_both flying landed').elim
  · rcases h' with ⟨q, flying', decided'⟩ | landed'
    · exact (regular.not_both flying' landed).elim
    · exact regular.same_outcome landed landed'

/-- A flight keeps its outcome. -/
theorem Decided.step (h : t.Decided f o) (step : Step limit t d u) (regular : t.Regular) :
    u.Decided f o := by
  rcases h with ⟨p, flies, decided⟩ | landed
  · cases step with
    | creates free => exact Or.inl ⟨p, Multiset.mem_cons_of_mem flies, decided⟩
    | @turns f' p' rest step flying turn =>
      rw [flying] at flies
      rcases Multiset.mem_cons.mp flies with same | other
      · cases same
        have turns :=
          FlightPhase.turns_of_locked (regular.sound.fits (f, p) (by simp [flying])) turn
        exact Or.inl ⟨_, Multiset.mem_cons_self _ _, turns.stays_decided decided⟩
      · exact Or.inl ⟨p, Multiset.mem_cons_of_mem other, decided⟩
    | @calls f' p' rest c next flying turn x =>
      rw [flying] at flies
      rcases Multiset.mem_cons.mp flies with same | other
      · cases same
        have call : FlightPhase.Calls limit p ⟨c, x⟩ _ := FlightPhase.calls_of_call turn x
        rw [call.undecided] at decided
        cases decided
      · exact Or.inl ⟨p, Multiset.mem_cons_of_mem other, decided⟩
    | @lands f' p' o' rest flying ended =>
      rw [flying] at flies
      rcases Multiset.mem_cons.mp flies with same | other
      · cases same
        cases p with
        | landed o =>
          cases decided
          cases ended
          exact Or.inr (by simp)
        | clearing o => cases ended
        | _ => cases decided
      · exact Or.inl ⟨p, other, decided⟩
    | _ => exact Or.inl ⟨p, flies, decided⟩
  · exact Or.inr (step.landings_prefix.subset landed)

/-- A flight that comes to a success begins the next generation with this step. -/
theorem Step.decides (step : Step limit t d u) (sound : t.Sound) (h : u.Decided f (.ok g)) :
    t.Decided f (.ok g) ∨ (f, .clearing (.ok g)) ∈ u.flights ∧
      g = t.supervisor.generation + 1 ∧ u.supervisor.generation = g := by
  rcases h with ⟨p, flies, decided⟩ | landed
  · cases step with
    | creates free =>
      rcases Multiset.mem_cons.mp flies with same | other
      · cases same
        cases decided
      · exact Or.inl (Or.inl ⟨p, other, decided⟩)
    | @turns f' p' rest step flying turn =>
      rcases Multiset.mem_cons.mp flies with same | other
      · cases same
        have turns := FlightPhase.turns_of_locked (sound.fits (f, p') (by simp [flying])) turn
        rcases turns.decides decided with before | ⟨clearing, next, begun⟩
        · exact Or.inl (Or.inl ⟨p', by simp [flying], before⟩)
        · exact Or.inr ⟨by simp [clearing], next, begun⟩
      · exact Or.inl (Or.inl ⟨p, by simp [flying, other], decided⟩)
    | @calls f' p' rest c next flying turn x =>
      rcases Multiset.mem_cons.mp flies with same | other
      · cases same
        exact ((FlightPhase.calls_of_call turn x).not_success decided).elim
      · exact Or.inl (Or.inl ⟨p, by simp [flying, other], decided⟩)
    | lands flying ended => exact Or.inl (Or.inl ⟨p, by simp [flying, flies], decided⟩)
    | _ => exact Or.inl (Or.inl ⟨p, flies, decided⟩)
  · cases step with
    | @lands f' p' o' rest flying ended =>
      rcases List.mem_append.mp landed with old | new
      · exact Or.inl (Or.inr old)
      · cases List.mem_singleton.mp new
        obtain rfl := FlightPhase.decided_of_outcome ended
        exact Or.inl (Or.inl ⟨.landed (.ok g), by simp [flying], rfl⟩)
    | _ => exact Or.inl (Or.inr landed)

/-- Generations never go back. -/
theorem Step.generation_le (step : Step limit t d u) (sound : t.Sound) :
    t.supervisor.generation ≤ u.supervisor.generation := by
  cases sound.succeeds step with
  | keeps session generation => exact generation.ge
  | loses session generation => exact generation.ge
  | gains before after generation => omega

/-- A success tells a generation that there has been. While the flight has the way, it is the
present one. -/
structure Dated (t : Traffic) : Prop where
  past : ∀ f g, t.Decided f (.ok g) → g ≤ t.supervisor.generation
  present : ∀ f g, t.Decided f (.ok g) → t.supervisor.pending = some f →
    (f, .clearing (.ok g)) ∈ t.flights ∧ g = t.supervisor.generation

namespace Dated

theorem initial : Traffic.new.Dated where
  past f g h := by simp [Decided, Traffic.new] at h
  present f g h := by simp [Decided, Traffic.new] at h

theorem step (h : t.Dated) (step : Step limit t d u) (regular : t.Regular) : u.Dated where
  past f g decided := by
    rcases step.decides regular.sound decided with before | ⟨_, _, begun⟩
    · exact (h.past f g before).trans (step.generation_le regular.sound)
    · exact begun.ge
  present f g decided pending := by
    rcases step.decides regular.sound decided with before | ⟨clearing, _, begun⟩
    · have known := before.known regular
      -- Nothing but the flight itself could change what it is told or free the way.
      have active {f' : FlightId} {p : FlightPhase} (flying : (f', p) ∈ t.flights)
          (going : p.isLanded = false) (still : t.supervisor.pending = some f) :
          f' = f ∧ p = .clearing (.ok g) := by
        have mine := (regular.sound.pending _ flying).mp going
        obtain rfl := Option.some.inj (mine.symm.trans still)
        exact ⟨rfl, regular.sound.phase_unique flying (h.present f' g before still).1⟩
      cases step with
      | creates free =>
        cases pending
        exact absurd known (Nat.lt_irrefl _)
      | @turns f' p rest step flying turn =>
        have going := FlightPhase.active_of_locked turn
        have takes := (regular.sound.fits (f', p) (by simp [flying])).locked turn
        rw [takes.pending] at pending
        split at pending
        · cases pending
        · rename_i aloft
          have flies : (f', p) ∈ t.flights := by simp [flying]
          obtain ⟨rfl, rfl⟩ := active flies going pending
          cases turn
          exact absurd rfl aloft
      | @calls f' p rest c next flying turn x =>
        have going := (FlightPhase.active_of_call turn (c.heard limit x).answer).1
        have flies : (f', p) ∈ t.flights := by simp [flying]
        obtain ⟨_, rfl⟩ := active flies going pending
        cases turn
      | @lands f' p o rest flying ended =>
        obtain ⟨there, present⟩ := h.present f g before pending
        rw [flying] at there
        rcases Multiset.mem_cons.mp there with same | other
        · cases same
          cases ended
        · exact ⟨other, present⟩
      | stopTurns going turn =>
        obtain ⟨_, _, same, _, generation⟩ := t.supervisor.tryMove_stopped
        rw [StopPhase.stops_of_locked turn] at pending ⊢
        obtain ⟨there, present⟩ := h.present f g before (same.symm.trans pending)
        exact ⟨there, present.trans generation.symm⟩
      | _ => exact h.present f g before pending
    · exact ⟨clearing, begun.symm⟩

end Dated

end Traffic

namespace Kernel

variable {σ : Type} {k : Kernel σ} {f : FlightId} {i g : Nat} {b : Bool}

/-- A kernel as it is after a schedule, with what its flights have been told. -/
theorem play_dated (config : KernelConfig) (backend : Backend σ) (tooling : σ) (obedient : Bool)
    (moves : List (Move σ)) : ((new config backend tooling obedient).play moves).traffic.Dated :=
  (play_traffic (P := fun t => t.Regular ∧ t.Dated) config backend tooling obedient
    ⟨.initial, .initial⟩ (fun _ _ h step => ⟨h.1.step step, h.2.step step h.1⟩) moves).2

theorem Proper.play_dated (proper : k.Proper) (dated : k.traffic.Dated) (moves : List (Move σ)) :
    (k.play moves).traffic.Dated :=
  (play_deeds (P := fun _ t => t.Regular ∧ t.Dated) proper.orderly ⟨proper.regular, dated⟩
    (fun _ _ _ h step => ⟨h.1.step step, h.2.step step h.1⟩) moves).2

/-- A flight either had its outcome at the beginning of a schedule, or succeeds with a generation
that begins in the course of it. -/
theorem Proper.play_decides (proper : k.Proper) (moves : List (Move σ)) :
    k.supervisor.generation ≤ (k.play moves).supervisor.generation ∧
      ((k.play moves).traffic.Decided f (.ok g) →
        k.traffic.Decided f (.ok g) ∨ k.supervisor.generation < g) := by
  have all := play_deeds (P := fun _ t => t.Regular ∧
      k.supervisor.generation ≤ t.supervisor.generation ∧
      (t.Decided f (.ok g) → k.traffic.Decided f (.ok g) ∨ k.supervisor.generation < g))
    proper.orderly ⟨proper.regular, le_rfl, Or.inl⟩ ?_ moves
  · exact all.2
  · rintro d ds t u ⟨regular, later, held⟩ step
    refine ⟨regular.step step, later.trans (step.generation_le regular.sound), fun decided => ?_⟩
    rcases step.decides regular.sound decided with before | ⟨_, next, _⟩
    · exact held before
    · exact Or.inr (by omega)

theorem Proper.stays_decided {o : FlightOutcome} (proper : k.Proper)
    (decided : k.traffic.Decided f o) (moves : List (Move σ)) :
    (k.play moves).traffic.Decided f o :=
  (play_deeds (P := fun _ t => t.Regular ∧ t.Decided f o) proper.orderly
    ⟨proper.regular, decided⟩ (fun _ _ _ h step => ⟨h.1.step step, h.2.step step h.1⟩) moves).2

/-- What a call for a restart is told if it succeeds. The flight that it joins may have begun the
present generation already and have only yet to free the way: then it is the present one. In all
other cases it is a generation that begins after the call. -/
theorem Proper.restart_told (proper : k.Proper) (dated : k.traffic.Dated)
    (call : k.deed? (.go i) = some (.joins f b)) (later : List (Move σ))
    (told : .returns f (.ok g) ∈ k.deeds (.go i :: later)) :
    let present := k.supervisor.generation
    g ≤ (k.play (.go i :: later)).supervisor.generation ∧
      ((f, .clearing (.ok g)) ∈ k.traffic.flights ∧ g = present ∨
        (∀ n, (f, .clearing (.ok n)) ∉ k.traffic.flights) ∧ present < g) := by
  intro present
  have landed := proper.returns (.go i :: later) told
  have proper' := proper.play (.go i :: later)
  have decided : (k.play (.go i :: later)).traffic.Decided f (.ok g) := Or.inr landed
  refine ⟨(proper.play_dated dated (.go i :: later)).past f g decided, ?_⟩
  have moved := move_traffic proper.orderly (.go i)
  rw [call] at moved
  have pending {n : Nat} (before : k.traffic.Decided f (.ok n)) :
      k.supervisor.pending = some f := by
    rcases moved.of_joins with ⟨taken, _⟩ | ⟨_, _, new, _⟩
    · exact taken
    · exact absurd (before.known proper.regular) (new ▸ Nat.lt_irrefl _)
  rcases (proper.play_decides (.go i :: later)).2 decided with before | after
  · exact Or.inl (dated.present f g before (pending before))
  · refine Or.inr ⟨fun n there => ?_, after⟩
    have before : k.traffic.Decided f (.ok n) := Or.inl ⟨_, there, rfl⟩
    have same := (proper.stays_decided before (.go i :: later)).unique decided proper'.regular
    cases same
    exact absurd (dated.present f g before (pending before)).2 (Nat.ne_of_gt after)

end Kernel

end NotebookKernel
