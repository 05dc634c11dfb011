import NotebookKernel.Proofs.Revival

/-!
# After a flight is over

A flight that ends without a crash frees the way, so that the next call for a restart begins
a new one. A flight that crashes never does: every later call joins it and gets its report,
and no session is started any more.
-/

namespace NotebookKernel

/-- Only calls of flights crash. -/
theorem Deed.Crashes.flight {limit : Duration} {d : Deed} (h : d.Crashes limit) :
    ∃ f, d.flight? = some f := by
  cases d with
  | calls f e => exact ⟨f, rfl⟩
  | _ => exact h.elim

/-- A flight frees the way itself. -/
theorem Deed.flight_of_frees {d : Deed} {f : FlightId} (h : d.passage? = some (.frees f)) :
    d.flight? = some f := by
  unfold passage? at h
  split at h <;> cases h
  rfl

namespace FlightPhase

/-- A flight frees the way last, and not if it crashes. -/
def Occupies (limit : Duration) (f : FlightId) (es : List Deed) (_ : Supervisor)
    (p : FlightPhase) : Prop :=
  (p.isLanded = false → .frees f ∉ es.filterMap Deed.passage?) ∧
    ((∃ d ∈ es, d.Crashes limit) → ∃ m, p = crashed m)

theorem kept_occupies (limit : Duration) (f : FlightId) :
    Aspect.Kept limit (fun _ => True) f (Occupies limit f) where
  turns := by
    intro es s p q s' ⟨unfreed, lost⟩ _ step
    refine ⟨fun active => ?_, fun ⟨d, hd, crash⟩ => ?_⟩
    · obtain ⟨_, ⟨idle, _⟩ | ⟨o, _, rfl, _⟩⟩ := step.passage f
      · rw [filterMap_keep idle]
        exact unfreed step.isLanded_eq.1
      · cases active
    · rcases List.mem_append.mp hd with old | new
      · obtain ⟨m, rfl⟩ := lost ⟨d, old, crash⟩
        cases step
      · cases List.mem_singleton.mp new
        exact crash.elim
  calls := by
    intro es s p e q ⟨unfreed, lost⟩ call _
    refine ⟨fun _ => ?_, fun ⟨d, hd, crash⟩ => ?_⟩
    · rw [filterMap_keep rfl]
      exact unfreed call.isLanded_eq.1
    · rcases List.mem_append.mp hd with old | new
      · obtain ⟨m, rfl⟩ := lost ⟨d, old, crash⟩
        cases call
      · cases List.mem_singleton.mp new
        exact (call.crashes_iff f).mp crash
  halted held _ _ := held
  landed _ held := held

end FlightPhase

namespace Traffic

variable {t u : Traffic} {limit : Duration} {d : Deed} {ds : List Deed} {f : FlightId}

/-- What comes of a flight that a call for a restart has begun. -/
structure Renews (limit : Duration) (f : FlightId) (ds : List Deed) (t : Traffic) : Prop where
  lands : 11 ≤ (deedsBy f ds).length → ∃ o, (f, o) ∈ t.landings
  /-- It asks for a session, unless it crashes or a stop makes its first move invalid. -/
  asks : ∀ o, (f, o) ∈ t.landings → startsBy f ds ≠ [] ∨
    (∃ d ∈ deedsBy f ds, d.Crashes limit) ∨ .halts ∈ ds ∧ ∃ e, o = .error (.lifecycle e)
  succeeds : ∀ c, .value c ∈ startsBy f ds → .halts ∉ ds →
    ∀ o, (f, o) ∈ t.landings → ∃ g, o = .ok g
  /-- Its session is the live one until the next flight. -/
  live : ∀ c, .value c ∈ startsBy f ds → .halts ∉ ds → t.supervisor.pending = none →
    t.supervisor.flights = f + 1 →
      t.supervisor.lifecycle = .running ∧ ∃ l ∈ t.supervisor.lease?, l.session = c

/-- The way is taken by a flight that is over. -/
structure Blocked (f : FlightId) (ds : List Deed) (t : Traffic) : Prop where
  empty : t.flights = 0
  pending : t.supervisor.pending = some f
  idle : ∀ d ∈ ds, d.flight? = none
  joined : ∀ g b, .joins g b ∈ ds → g = f ∧ b = false

/-- What is no deed of a flight leaves it so. -/
theorem Blocked.append (h : t.Blocked f ds) (flights : u.flights = t.flights)
    (pending : u.supervisor.pending = t.supervisor.pending) (idle : d.flight? = none)
    (joins : ∀ g b, d = .joins g b → g = f ∧ b = false) : u.Blocked f (ds ++ [d]) where
  empty := flights.trans h.empty
  pending := pending.trans h.pending
  idle e he := by
    rcases List.mem_append.mp he with old | new
    · exact h.idle e old
    · cases List.mem_singleton.mp new
      exact idle
  joined g b he := by
    rcases List.mem_append.mp he with old | new
    · exact h.joined g b old
    · exact joins g b (List.mem_singleton.mp new).symm

/-- Nothing happens then but stops, and calls that join the flight in vain. -/
theorem Blocked.step (h : t.Blocked f ds) (step : Step limit t d u) : u.Blocked f (ds ++ [d]) := by
  have nobody {x : FlightId × FlightPhase} {rest : Multiset (FlightId × FlightPhase)}
      (flying : t.flights = x ::ₘ rest) : False :=
    Multiset.cons_ne_zero (flying.symm.trans h.empty)
  cases step with
  | joins pending =>
    refine h.append rfl rfl rfl fun g b same => ?_
    cases same
    exact ⟨Option.some.inj (pending.symm.trans h.pending), rfl⟩
  | creates free => cases h.pending.symm.trans free
  | turns flying turn => exact (nobody flying).elim
  | calls flying turn x => exact (nobody flying).elim
  | lands flying ended => exact (nobody flying).elim
  | stopTurns going turn =>
    refine h.append rfl ?_ rfl fun _ _ same => by cases same
    rw [StopPhase.stops_of_locked turn]
    exact t.supervisor.tryMove_stopped.2.2.1
  | _ => exact h.append rfl rfl rfl fun _ _ same => by cases same

/-- There is no live session then. -/
theorem Blocked.lease (h : t.Blocked f ds) (sound : t.Sound) : t.supervisor.lease? = none := by
  obtain ⟨target, _, none, _⟩ := sound.lost f h.pending (by simp [h.empty])
  simp [Supervisor.lease?, none]

end Traffic

namespace Kernel

variable {σ : Type} (config : KernelConfig) (backend : Backend σ) (tooling : σ) (obedient : Bool)
  (moves : List (Move σ))

/-- If no flight is on its way and none has crashed, the way is free. -/
theorem play_free (empty : ((new config backend tooling obedient).play moves).traffic.flights = 0)
    (calm : ∀ d ∈ (new config backend tooling obedient).deeds moves,
      ¬d.Crashes config.disposeTimeout) :
    ((new config backend tooling obedient).play moves).supervisor.pending = none := by
  obtain ⟨active, _⟩ := play_freed config backend tooling obedient moves calm
  refine Option.eq_none_iff_forall_ne_some.mpr fun f pending => ?_
  obtain ⟨p, flying, _⟩ := (active f).mp pending
  rw [empty] at flying
  exact Multiset.notMem_zero _ flying

/-- If no flight is on its way and one has crashed, this one still has the way. -/
theorem play_lost (empty : ((new config backend tooling obedient).play moves).traffic.flights = 0)
    {d : Deed} (done : d ∈ (new config backend tooling obedient).deeds moves)
    (crash : d.Crashes config.disposeTimeout) :
    ∃ f m, ((new config backend tooling obedient).play moves).supervisor.pending = some f ∧
      (f, .error (.start (FlightPhase.crashReport m))) ∈
        ((new config backend tooling obedient).play moves).landings := by
  have proper := (new_proper config backend tooling obedient).play moves
  obtain ⟨f, own⟩ := crash.flight
  have created := (new_proper config backend tooling obedient).play_knows moves d done f own
  have mine {e : Deed} (he : e ∈ (new config backend tooling obedient).deeds moves)
      (own : e.flight? = some f) :
      e ∈ deedsBy f ((new config backend tooling obedient).deeds moves) :=
    List.mem_filter.mpr ⟨he, by simp [own]⟩
  rcases proper.regular.flies_or_landed created with ⟨p, flying⟩ | ⟨o, landed⟩
  · rw [empty] at flying
    exact (Multiset.notMem_zero _ flying).elim
  have carries := play_carries_all (I := fun f => FlightPhase.Occupies config.disposeTimeout f)
    config backend tooling obedient (fun f => FlightPhase.kept_occupies _ f)
    (fun f s _ => ⟨fun _ => by simp, fun ⟨_, hd, _⟩ => by cases hd⟩) moves f
  obtain ⟨past, s, p, did, ended, unfreed, lost⟩ := carries.arrived o landed
  have before : d ∈ past := by
    rcases List.mem_append.mp (did ▸ mine done own) with old | new
    · exact old
    · cases List.mem_singleton.mp new
      exact crash.elim
  obtain ⟨m, rfl⟩ := lost ⟨d, before, crash⟩
  cases ended
  have kept : .frees f ∉
      ((new config backend tooling obedient).deeds moves).filterMap Deed.passage? := by
    intro freed
    obtain ⟨e, he, frees⟩ := List.mem_filterMap.mp freed
    rcases List.mem_append.mp (did ▸ mine he (Deed.flight_of_frees frees)) with old | new
    · exact unfreed rfl (List.mem_filterMap.mpr ⟨e, old, frees⟩)
    · cases List.mem_singleton.mp new
      cases frees
  -- All flights but the one that has the way have freed it.
  rcases play_alternates config backend tooling obedient moves with
    ⟨taken, _⟩ | ⟨g, taken, pending, flights⟩
  · rw [taken] at kept
    exact (kept (frees_mem_passages.mpr created)).elim
  · rw [taken, List.mem_append, frees_mem_passages] at kept
    have known : f < g + 1 := created.trans_eq flights
    have last : f = g := Nat.le_antisymm (Nat.lt_succ_iff.mp known)
      (Nat.le_of_not_lt fun less => kept (Or.inl less))
    exact ⟨f, m, last ▸ pending, landed⟩

variable {config backend tooling obedient} {earlier : List (Move σ)} {i : Nat} {f : FlightId}
  {b : Bool}

/-- If no flight is on its way and none has crashed, a call for a restart begins a fresh flight. -/
theorem fresh_restart
    (empty : ((new config backend tooling obedient).play earlier).traffic.flights = 0)
    (calm : ∀ d ∈ (new config backend tooling obedient).deeds earlier,
      ¬d.Crashes config.disposeTimeout)
    (call : ((new config backend tooling obedient).play earlier).deed? (.go i) =
      some (.joins f b)) (later : List (Move σ)) :
    let k := (new config backend tooling obedient).play earlier
    let moves := .go i :: later
    b = true ∧ f = k.supervisor.flights ∧
      (k.play moves).traffic.Renews config.disposeTimeout f (k.deeds moves) := by
  intro k moves
  let k₀ := new config backend tooling obedient
  let k₁ := k.move (.go i)
  let ds := k.deeds moves
  have start : k₀.Proper := new_proper config backend tooling obedient
  have proper : k.Proper := start.play earlier
  have proper₁ : k₁.Proper := proper.move _
  have free := play_free config backend tooling obedient earlier empty calm
  have joined := move_traffic proper.orderly (.go i)
  rw [call] at joined
  rcases Traffic.Step.of_joins joined with ⟨taken, _⟩ | ⟨_, fresh, next, flights, created⟩
  · cases free.symm.trans taken
  have created : k₁.supervisor =
      { k.supervisor with pending := some f, flights := f + 1 } := created
  have flying : (f, .opening) ∈ k₁.traffic.flights := flights ▸ Multiset.mem_cons_self _ _
  have pending : k₁.supervisor.pending = some f := by rw [created]
  have course : FlightPhase.opening.OnCourse False [] k₁.supervisor := by
    rw [created]
    exact ⟨proper.regular.sound.settled free, False.elim, rfl⟩
  obtain ⟨whole, mine⟩ := deeds_of_joins call later
  have split : ds = .joins f b :: k₁.deeds later := whole
  have same : startsBy f ds = startsBy f (k₁.deeds later) := by rw [startsBy, mine, startsBy]
  have own : deedsBy f (k₀.deeds (earlier ++ moves)) = deedsBy f ds := by
    rw [deeds_append, deedsBy_append, (start.play_knows earlier).idle next.ge, List.nil_append]
  have undisturbed (quiet : .halts ∉ ds) : .halts ∉ k₁.deeds later := fun h => quiet (by
    rw [split]
    exact List.mem_cons_of_mem _ h)
  -- A flight asks for one session at most, so that one that was given cannot have failed as well.
  have sole {c : SessionId} (given : .value c ∈ startsBy f ds) :
      startsBy f (k₁.deeds later) = [.value c] := by
    have few := play_startsBy_le config backend tooling obedient (earlier ++ moves) f
    rw [startsBy, own] at few
    obtain ⟨a, one⟩ := List.length_eq_one_iff.mp (le_antisymm few (List.length_pos_of_mem given))
    have one : startsBy f ds = [a] := one
    rw [one, List.mem_singleton] at given
    rw [← same, one, given]
  refine ⟨fresh, next, fun often => ?_, fun o landed => ?_, fun c given quiet o landed => ?_,
    fun c given quiet free last => ?_⟩
  · rw [mine] at often
    exact proper₁.flight_lands (proper₁.regular.sound.known _ flying) later often
  · have logged := play_logged config backend tooling obedient (earlier ++ moves) f
    rw [own, play_append] at logged
    rcases logged.concludes landed with concludes | ⟨crashed, _⟩
    · cases concludes with
      | rejected e log =>
        refine Or.inr (Or.inr ⟨?_, e, rfl⟩)
        by_contra quiet
        rcases proper₁.course_ends flying pending course later (undisturbed quiet) landed with
          ⟨g, c, impossible, _⟩ | ⟨e', _, failed⟩ | ⟨⟨m, impossible⟩, _⟩
        · cases impossible
        · rw [← same, startsBy, log.started] at failed
          cases failed
        · cases impossible
      | failed e log => exact Or.inl fun none => by cases log.started.symm.trans none
      | installed c g log => exact Or.inl fun none => by cases log.started.symm.trans none
      | overruled c log closed => exact Or.inl fun none => by cases log.started.symm.trans none
    · exact Or.inr (Or.inl crashed)
  · rcases proper₁.course_ends flying pending course later (undisturbed quiet) landed with
      ⟨g, _, rfl, _⟩ | ⟨e, _, failed⟩ | ⟨_, _, unanswered⟩
    · exact ⟨g, rfl⟩
    · simp [sole given] at failed
    · simp [sole given] at unanswered
  · obtain ⟨l, lease, answered⟩ := proper₁.play_live flying pending course later
      (undisturbed quiet) le_rfl (fun e => by simp [sole given]) free last
    rw [sole given, List.mem_singleton] at answered
    cases answered
    exact ⟨Supervisor.running_of_lease lease, l, lease, rfl⟩

/-- If no flight is on its way and one has crashed, a call for a restart joins this one. -/
theorem blocked_restart
    (empty : ((new config backend tooling obedient).play earlier).traffic.flights = 0) {d : Deed}
    (done : d ∈ (new config backend tooling obedient).deeds earlier)
    (crash : d.Crashes config.disposeTimeout)
    (call : ((new config backend tooling obedient).play earlier).deed? (.go i) =
      some (.joins f b)) (later : List (Move σ)) :
    let k := (new config backend tooling obedient).play earlier
    let moves := .go i :: later
    (∃ m, (f, .error (.start (FlightPhase.crashReport m))) ∈ k.landings) ∧
      (k.play moves).traffic.Blocked f (k.deeds moves) := by
  intro k moves
  have proper : k.Proper := (new_proper config backend tooling obedient).play earlier
  obtain ⟨g, m, pending, landed⟩ :=
    play_lost config backend tooling obedient earlier empty done crash
  have blocked : (k.play moves).traffic.Blocked g (k.deeds moves) :=
    play_deeds (P := fun ds t => t.Blocked g ds) proper.orderly
      ⟨empty, pending, by simp, by simp⟩ (fun _ _ _ h step => h.step step) moves
  have split : k.deeds moves = .joins f b :: (k.move (.go i)).deeds later :=
    (deeds_of_joins call later).1
  obtain rfl : f = g := by
    refine (blocked.joined f b ?_).1
    rw [split]
    exact List.mem_cons_self
  exact ⟨⟨m, landed⟩, blocked⟩

/-- The next restart after a flight is over. If no flight has crashed, the call begins a fresh
flight. This one asks for a session unless it crashes, or a stop comes in and its first move is
rejected. If it gets a session and no stop comes in, it succeeds, and the kernel is running with
this session until the next flight. But once a flight has crashed, no flight ever begins again:
the call, and every later one, joins the crashed flight and gets its report, and no session is
live any more. -/
theorem restart_after_flight
    (empty : ((new config backend tooling obedient).play earlier).traffic.flights = 0)
    (call : ((new config backend tooling obedient).play earlier).deed? (.go i) =
      some (.joins f b)) (later : List (Move σ)) :
    let k₀ := new config backend tooling obedient
    let k := k₀.play earlier
    let moves := .go i :: later
    let t := (k.play moves).traffic
    let ds := k.deeds moves
    (∃ log, k.deedsOf i moves = .joins f b :: log ∧
      (k.play moves).Awaits f (k.track i moves) log) ∧
    ((∀ d ∈ k₀.deeds earlier, ¬d.Crashes config.disposeTimeout) →
      b = true ∧ f = k.supervisor.flights ∧ t.Renews config.disposeTimeout f ds) ∧
    ((∃ d ∈ k₀.deeds earlier, d.Crashes config.disposeTimeout) →
      (∃ m, (f, .error (.start (FlightPhase.crashReport m))) ∈ k.landings) ∧
      t.Blocked f ds ∧ t.supervisor.lease? = none) := by
  intro k₀ k moves t ds
  have proper : k.Proper := (new_proper config backend tooling obedient).play earlier
  refine ⟨awaits_of_joins proper call later, fun calm => fresh_restart empty calm call later,
    fun ⟨_, done, crash⟩ => ?_⟩
  obtain ⟨reported, blocked⟩ := blocked_restart empty done crash call later
  exact ⟨reported, blocked, blocked.lease (proper.play moves).regular.sound⟩

/-- The first start crashes, and whoever called for it gets the report. The kernel is stopped,
the tooling is repaired, and a restart is called for. -/
def crashedStart : List (Move Script) :=
  [.change { faults := { start := some (.crash none) } }, .restart 0, .go 0, .go 1, .go 1, .go 1,
    .go 1, .go 1, .go 0, .go 0, .stop 1, .go 0, .go 0, .go 0, .go 0, .change {}, .restart 2]

theorem crashed_start_blocks :
    (∃ m, (0, .error (.start (FlightPhase.crashReport m))) ∈
      (rehearsal.play crashedStart).landings) ∧
    ∀ later, (∀ d ∈ (rehearsal.play crashedStart).deeds (.go 0 :: later), d.flight? = none) ∧
      ((rehearsal.play crashedStart).play (.go 0 :: later)).supervisor.lease? = none := by
  have empty : (rehearsal.play crashedStart).traffic.flights = 0 := rfl
  have call : (rehearsal.play crashedStart).deed? (.go 0) = some (.joins 0 false) := rfl
  have crash : ∃ d ∈ rehearsal.deeds crashedStart,
      d.Crashes KernelConfig.standard.disposeTimeout := by
    have did : rehearsal.deeds crashedStart = [.joins 0 true,
        .turns 0 .opening (.entering .starting),
        .turns 0 (.entering .starting) (.taking .starting),
        .turns 0 (.taking .starting) (.starting .starting),
        .calls 0 ⟨.start, .now (.crashed none)⟩,
        .lands 0 (.error (.start (FlightPhase.crashReport none))),
        .returns 0 (.error (.start (FlightPhase.crashReport none))), .stops, .halts,
        .stopEnds .stopped] := rfl
    rw [did]
    exact ⟨.calls 0 ⟨.start, .now (.crashed none)⟩, by simp, none, rfl⟩
  have blocked (later : List (Move Script)) := (restart_after_flight empty call later).2.2 crash
  exact ⟨(blocked []).1, fun later => ⟨(blocked later).2.1.idle, (blocked later).2.2⟩⟩

/-- The crashed flight has been reported, and yet the next call gets its report once more. The
tooling, which would start by now, is not asked. -/
theorem crashed_flight_joined :
    (rehearsal.play crashedStart).traffic.flights = 0 ∧
      .returns 0 (.error (.start (FlightPhase.crashReport none))) ∈ rehearsal.deeds crashedStart ∧
      (rehearsal.play crashedStart).supervisor.lifecycle = .stopped ∧
      (rehearsal.play crashedStart).deedsOf 0 [.go 0, .go 0] =
        [.joins 0 false, .returns 0 (.error (.start (FlightPhase.crashReport none)))] ∧
      ((rehearsal.play crashedStart).deeds [.go 0, .go 0]).filterMap Deed.started? = [] ∧
      ((rehearsal.play crashedStart).play [.go 0, .go 0]).supervisor.lifecycle = .stopped := by
  have told : (rehearsal.deeds crashedStart)[6]? =
      some (.returns 0 (.error (.start (FlightPhase.crashReport none)))) := rfl
  exact ⟨rfl, List.mem_of_getElem? told, rfl, rfl, rfl, rfl⟩

end Kernel

end NotebookKernel
