import NotebookKernel.Proofs.Outcome

/-!
# Restarts share flights

One flight is on its way at a time. The way is taken when a flight is created, and it is
freed by this flight and by no other before the next one is created. A flight that ends
without a crash has freed it. Whoever calls for a restart joins the flight that has the way.
-/

namespace NotebookKernel

/-- A flight takes the way or frees it. -/
inductive Passage where
  | takes (flight : FlightId)
  | frees (flight : FlightId)
  deriving DecidableEq, Repr

namespace Deed

def passage? : Deed → Option Passage
  | joins f true => some (.takes f)
  | turns f (.clearing _) _ => some (.frees f)
  | _ => none

/-- The flight that asks for a session. -/
def starter? : Deed → Option FlightId
  | calls f ⟨.start, _⟩ => some f
  | _ => none

end Deed

/-- Is a session asked for? -/
def Errand.isStart : Errand → Bool
  | ⟨.start, _⟩ => true
  | _ => false

/-- The first flights have taken the way and freed it, one after the other. -/
def passages (n : Nat) : List Passage := (List.range n).flatMap fun f => [.takes f, .frees f]

theorem passages_succ (n : Nat) : passages (n + 1) = passages n ++ [.takes n, .frees n] := by
  simp [passages, List.range_succ]

theorem frees_mem_passages {f n : Nat} : .frees f ∈ passages n ↔ f < n := by
  simp [passages]

/-- Flights have had the way one after the other, and the pending one has it. -/
def Alternates (ds : List Deed) (s : Supervisor) : Prop :=
  ds.filterMap Deed.passage? = passages s.flights ∧ s.pending = none ∨
    ∃ f, ds.filterMap Deed.passage? = passages f ++ [.takes f] ∧
      s.pending = some f ∧ s.flights = f + 1

/-- What neither takes nor frees the way. -/
theorem Alternates.congr {ds : List Deed} {s s' : Supervisor} {d : Deed} (h : Alternates ds s)
    (idle : d.passage? = none) (pending : s'.pending = s.pending)
    (flights : s'.flights = s.flights) : Alternates (ds ++ [d]) s' := by
  unfold Alternates
  rw [filterMap_keep idle, pending, flights]
  exact h

namespace FlightPhase

/-- A flight frees the way with its last step, and leaves it alone before. -/
theorem Turns.passage {p q : FlightPhase} {s s' : Supervisor} (step : Turns s p q s')
    (f : FlightId) : s'.flights = s.flights ∧
      ((Deed.turns f p q).passage? = none ∧ s'.pending = s.pending ∨
        ∃ o, p = clearing o ∧ q = landed o ∧ s' = s.clear) := by
  cases step with
  | clears => exact ⟨rfl, Or.inr ⟨_, rfl, rfl, rfl⟩⟩
  | fails =>
    obtain ⟨_, _, pending, flights, _⟩ := s.tryMove_stopped
    exact ⟨flights, Or.inl ⟨rfl, pending⟩⟩
  | _ => exact ⟨rfl, Or.inl ⟨rfl, rfl⟩⟩

/-- A flight that has landed has freed the way. -/
theorem kept_freed (limit : Duration) (f : FlightId) :
    Aspect.Kept limit (fun _ => True) f fun es _ p =>
      p.isLanded = true → .frees f ∈ es.filterMap Deed.passage? where
  turns _ _ step landed := by
    obtain ⟨o, rfl⟩ := step.isLanded_eq.2.mp landed
    simp [List.filterMap_append, Deed.passage?]
  calls _ call _ landed := by
    rw [call.isLanded_eq.2] at landed
    cases landed
  halted freed _ _ := freed
  landed _ freed := freed

end FlightPhase

namespace Traffic

variable {t u : Traffic} {limit : Duration} {d : Deed} {ds : List Deed}

theorem Step.alternates (step : Step limit t d u) (sound : t.Sound)
    (h : Alternates ds t.supervisor) : Alternates (ds ++ [d]) u.supervisor := by
  cases step with
  | joins pending => exact h.congr rfl rfl rfl
  | calls flying turn x => exact h.congr rfl rfl rfl
  | lands flying ended => exact h.congr rfl rfl rfl
  | leaves waits landed => exact h.congr rfl rfl rfl
  | stops => exact h.congr rfl rfl rfl
  | stopCalls going turn x => exact h.congr rfl rfl rfl
  | stopEnds going ended => exact h.congr rfl rfl rfl
  | stopTurns going turn =>
    obtain ⟨_, _, pending, flights, _⟩ := t.supervisor.tryMove_stopped
    rw [StopPhase.stops_of_locked turn]
    exact h.congr rfl pending flights
  | creates free =>
    have taken : ds.filterMap Deed.passage? = passages t.supervisor.flights := by
      rcases h with ⟨taken, _⟩ | ⟨f, _, pending, _⟩
      · exact taken
      · rw [free] at pending
        cases pending
    refine Or.inr ⟨t.supervisor.flights, ?_, rfl, rfl⟩
    simp [List.filterMap_append, taken, Deed.passage?]
  | @turns f p rest step flying turn =>
    have there : (f, p) ∈ t.flights := by simp [flying]
    have turns := FlightPhase.turns_of_locked (sound.fits _ there) turn
    have pending := (sound.pending _ there).mp turns.isLanded_eq.1
    obtain ⟨flights, ⟨idle, same⟩ | ⟨o, rfl, _, cleared⟩⟩ := turns.passage f
    · exact h.congr idle same flights
    · rcases h with ⟨_, free⟩ | ⟨g, taken, mine, created⟩
      · cases free.symm.trans pending
      · cases mine.symm.trans pending
        refine Or.inl ⟨?_, by simp only [cleared, Supervisor.clear]⟩
        simp only [flights, created, passages_succ]
        simp [List.filterMap_append, taken, Deed.passage?]

/-- Whoever calls for a restart joins the flight that has the way. -/
theorem Step.joins_pending {f : FlightId} {b : Bool} (step : Step limit t (.joins f b) u) :
    u.supervisor.pending = some f := by
  cases step with
  | joins pending => exact pending
  | creates free => rfl

/-- Only flights ask for sessions. -/
theorem Step.starts (step : Step limit t d u)
    (h : t.errands.countP Errand.isStart = (ds.filterMap Deed.starter?).length) :
    u.errands.countP Errand.isStart = ((ds ++ [d]).filterMap Deed.starter?).length := by
  rw [List.filterMap_append, List.length_append, ← h]
  cases step with
  | @calls f p rest c next flying turn x =>
    cases c <;> simp [Errand.isStart, Deed.starter?]
  | @stopCalls p rest c next going turn x =>
    cases p with
    | retiring old => cases old <;> cases turn <;> simp [Errand.isStart, Deed.starter?]
    | _ => cases turn
  | _ => simp [Deed.starter?]

/-- One flight is on its way at a time. -/
theorem Sound.one_active (h : t.Sound) :
    (t.flights.filter fun x => x.2.isLanded = false).card ≤ 1 := by
  rcases (t.flights.filter fun x => x.2.isLanded = false).empty_or_exists_mem with none | ⟨x, hx⟩
  · simp [none]
  · have nodup : (t.flights.filter fun x => x.2.isLanded = false).Nodup :=
      (Multiset.Nodup.of_map _ h.unique).filter _
    refine Multiset.card_le_card (t := {x}) ((Multiset.le_iff_subset nodup).mpr fun y hy => ?_)
    obtain ⟨there, active⟩ := Multiset.mem_filter.mp hx
    obtain ⟨there', active'⟩ := Multiset.mem_filter.mp hy
    have first := (h.pending x there).mp active
    have second := (h.pending y there').mp active'
    have same : y.1 = x.1 := Option.some.inj (second.symm.trans first)
    have equal : y = x := Multiset.inj_on_of_nodup_map h.unique _ there' _ there same
    exact Multiset.mem_singleton.mpr equal

end Traffic

namespace Kernel

variable {σ : Type}

/-- The way under every schedule. -/
theorem play_alternates (config : KernelConfig) (backend : Backend σ) (tooling : σ)
    (obedient : Bool) (moves : List (Move σ)) :
    Alternates ((new config backend tooling obedient).deeds moves)
      ((new config backend tooling obedient).play moves).supervisor := by
  have both := play_deeds (P := fun ds t => t.Sound ∧ Alternates ds t.supervisor)
    (new_orderly config backend tooling obedient) ⟨.initial, Or.inl ⟨rfl, rfl⟩⟩
    (fun _ _ _ h step => ⟨h.1.step step, step.alternates h.1 h.2⟩) moves
  exact both.2

end Kernel

/-- A flight asks for sessions as often as it is answered. -/
theorem count_starter (f : FlightId) (ds : List Deed) :
    (ds.filterMap Deed.starter?).count f = (startsBy f ds).length := by
  rw [startsBy, deedsBy, List.count_filterMap, List.length_filterMap_eq_countP, List.countP_filter]
  refine List.countP_congr fun d _ => ?_
  cases d with
  | calls g e =>
    obtain ⟨c, x⟩ := e
    cases c <;> simp [Deed.starter?, Deed.started?, Deed.flight?]
  | turns g p q => simp [Deed.starter?, Deed.started?]
  | _ => simp [Deed.starter?, Deed.started?]

namespace Kernel

variable {σ : Type} (config : KernelConfig) (backend : Backend σ) (tooling : σ) (obedient : Bool)
  (moves : List (Move σ))

theorem play_startsBy_le (f : FlightId) :
    (startsBy f ((new config backend tooling obedient).deeds moves)).length ≤ 1 := by
  have proper := new_proper config backend tooling obedient
  exact (play_logged config backend tooling obedient moves f).started_le
    (proper.play moves).regular fun unknown => (proper.play_knows moves).idle unknown

/-- There are no more calls that start a session than flights. -/
theorem play_starts_le :
    let k := (new config backend tooling obedient).play moves
    k.traffic.errands.countP Errand.isStart ≤ k.supervisor.flights := by
  intro k
  have proper := new_proper config backend tooling obedient
  let ds := (new config backend tooling obedient).deeds moves
  have counted : k.traffic.errands.countP Errand.isStart =
      (ds.filterMap Deed.starter?).length :=
    play_deeds (P := fun ds t =>
        t.errands.countP Errand.isStart = (ds.filterMap Deed.starter?).length)
      proper.orderly rfl (fun _ _ _ h step => step.starts h) moves
  have nodup : (ds.filterMap Deed.starter?).Nodup := by
    refine List.nodup_iff_count_le_one.mpr fun f => ?_
    rw [count_starter]
    exact play_startsBy_le config backend tooling obedient moves f
  have known : ds.filterMap Deed.starter? ⊆ List.range k.supervisor.flights := by
    intro f hf
    obtain ⟨d, hd, starter⟩ := List.mem_filterMap.mp hf
    have own : d.flight? = some f := by
      unfold Deed.starter? at starter
      split at starter
      · exact starter
      · cases starter
    exact List.mem_range.mpr (proper.play_knows moves d hd f own)
  rw [counted]
  simpa using (nodup.subperm known).length_le

/-- Without a crash the way is taken by the flight on its way, and whoever is over has freed
it. -/
theorem play_freed (calm : ∀ d ∈ (new config backend tooling obedient).deeds moves,
      ¬d.Crashes config.disposeTimeout) :
    let t := ((new config backend tooling obedient).play moves).traffic
    (∀ f, t.supervisor.pending = some f ↔ ∃ p, (f, p) ∈ t.flights ∧ p.isLanded = false) ∧
    ∀ l ∈ t.landings, .frees l.1 ∈
      ((new config backend tooling obedient).deeds moves).filterMap Deed.passage? := by
  intro t
  let ds := (new config backend tooling obedient).deeds moves
  have regular : t.Regular := ((new_proper config backend tooling obedient).play moves).regular
  have freed : ∀ l ∈ t.landings, .frees l.1 ∈ ds.filterMap Deed.passage? := by
    rintro ⟨f, o⟩ arrived
    have carries := play_carries_all (I := fun f es s p =>
        p.Logged config.disposeTimeout es s ∧
          (p.isLanded = true → .frees f ∈ es.filterMap Deed.passage?)) config backend tooling
      obedient (fun f => (FlightPhase.kept_logged _ f).and (FlightPhase.kept_freed _ f))
      (fun _ _ _ => ⟨⟨rfl, rfl⟩, fun landed => by cases landed⟩) moves f
    obtain ⟨past, s, p, did, ended, logged, freed⟩ := carries.arrived o arrived
    have own {d : Deed} (h : d ∈ past) : d ∈ ds :=
      List.mem_of_mem_filter (did ▸ List.mem_append_left _ h : d ∈ deedsBy f ds)
    cases p with
    | landed o =>
      obtain ⟨d, hd, passed⟩ := List.mem_filterMap.mp (freed rfl)
      exact List.mem_filterMap.mpr ⟨d, own hd, passed⟩
    | crashed m =>
      obtain ⟨⟨d, hd, crash⟩, _⟩ := logged
      exact (calm d (own hd) crash).elim
    | _ => cases ended
  refine ⟨fun f => ⟨fun pending => ?_, fun ⟨p, flying, active⟩ => ?_⟩, freed⟩
  · rcases regular.flies_or_landed (regular.sound.created f pending) with ⟨p, flying⟩ | ⟨o, arrived⟩
    · refine ⟨p, flying, ?_⟩
      exact (regular.sound.pending _ flying).mpr pending
    · have gone := freed _ arrived
      rcases play_alternates config backend tooling obedient moves with
        ⟨_, free⟩ | ⟨g, taken, mine, _⟩
      · rw [show t.supervisor.pending = none from free] at pending
        cases pending
      · rw [show t.supervisor.pending = some g from mine] at pending
        cases pending
        rw [taken, List.mem_append, frees_mem_passages] at gone
        simp at gone
  · exact (regular.sound.pending _ flying).mp active

/-- Restarts under every schedule. One flight is on its way at a time; it has the way from its
creation until it frees it itself, and if nothing crashes every flight that is over has freed
it. Whoever calls for a restart joins the flight that then has the way, and gets the outcome of
this flight as everyone else who joined it. A flight asks for one session at most. -/
theorem restarts_coalesce (config : KernelConfig) (backend : Backend σ) (tooling : σ)
    (obedient : Bool) (moves : List (Move σ)) :
    let k₀ := new config backend tooling obedient
    let k := k₀.play moves
    let t := k.traffic
    let ds := k₀.deeds moves
    (t.flights.filter fun x => x.2.isLanded = false).card ≤ 1 ∧
    Alternates ds t.supervisor ∧
    ((∀ d ∈ ds, ¬d.Crashes config.disposeTimeout) →
      (∀ f, t.supervisor.pending = some f ↔ ∃ p, (f, p) ∈ t.flights ∧ p.isLanded = false) ∧
      ∀ l ∈ t.landings, .frees l.1 ∈ ds.filterMap Deed.passage?) ∧
    (∀ i f b, k.deed? (.go i) = some (.joins f b) →
      (k.move (.go i)).supervisor.pending = some f ∧
      ∀ later, ∃ log, k.deedsOf i (.go i :: later) = .joins f b :: log ∧
        (k.play (.go i :: later)).Awaits f (k.track i (.go i :: later)) log) ∧
    (∀ f o o', .returns f o ∈ ds → .returns f o' ∈ ds → o = o') ∧
    (∀ f, (startsBy f ds).length ≤ 1) ∧
    t.errands.countP Errand.isStart ≤ t.supervisor.flights := by
  intro k₀ k t ds
  have start : k₀.Proper := new_proper config backend tooling obedient
  have proper : k.Proper := start.play moves
  refine ⟨proper.regular.sound.one_active, play_alternates .., ?_,
    fun i f b call => ?_, fun f o o' first second => ?_, ?_, play_starts_le ..⟩
  · exact play_freed config backend tooling obedient moves
  · have moved := move_traffic proper.orderly (.go i)
    rw [call] at moved
    exact ⟨moved.joins_pending, fun later => awaits_of_joins proper call later⟩
  · exact proper.regular.same_outcome (start.returns moves first)
      (start.returns moves second)
  · exact play_startsBy_le config backend tooling obedient moves

end Kernel

end NotebookKernel
