import NotebookKernel.Proofs.Coalescing
import NotebookKernel.Proofs.Overruling

/-!
# Restarts that no stop disturbs

A flight that begins with a settled supervisor goes straight on as long as no stop takes its
step. It is not rejected, it finds the lifecycle where it moved it, and it fails only if the
tooling does. When it is over the kernel is running, until another flight or a stop comes.
-/

namespace NotebookKernel

/-- The states from which a flight can move the lifecycle. -/
theorem Supervisor.Settled.allows {s : Supervisor} (h : s.Settled) :
    s.lifecycle.allows s.flightTarget = true := by
  rcases h with ⟨state, _⟩ | ⟨state, _⟩ | ⟨state, _⟩ <;>
    simp [flightTarget, state, Lifecycle.allows]

theorem Supervisor.running_of_lease {s : Supervisor} {l : Lease} (h : l ∈ s.lease?) :
    s.lifecycle = .running := by
  unfold lease? at h
  split at h
  · assumption
  · cases h

namespace FlightPhase

/-- A flight that no stop has disturbed. If it began in a vacant kernel, there is no session
that it would have to retire. -/
def OnCourse (vacant : Prop) (es : List Deed) (s : Supervisor) : FlightPhase → Prop
  | opening => s.Settled ∧ (vacant → s.session = none) ∧ es.filterMap Deed.started? = []
  | entering target => s.lifecycle.allows target = true ∧ (vacant → s.session = none) ∧
      es.filterMap Deed.started? = []
  | taking target => s.lifecycle = target ∧ (vacant → s.session = none) ∧
      es.filterMap Deed.started? = []
  | retiring target _ => s.lifecycle = target ∧ ¬vacant ∧ es.filterMap Deed.started? = []
  | starting target => s.lifecycle = target ∧ es.filterMap Deed.started? = []
  | installing target fresh => s.lifecycle = target ∧ .value fresh ∈ es.filterMap Deed.started?
  | discarding _ => False
  | clearing (.ok g) => ∃ c, s.lease? = some ⟨c, g⟩ ∧ .value c ∈ es.filterMap Deed.started?
  | landed (.ok _) => ∃ c, .value c ∈ es.filterMap Deed.started?
  | failing e | clearing (.error e) | landed (.error e) => .failed e ∈ es.filterMap Deed.started?
  | crashed _ => (vacant → ∃ m, .crashed m ∈ es.filterMap Deed.started?) ∧
      ∀ c, .value c ∉ es.filterMap Deed.started?

/-- What a flight was answered stays in its records. -/
theorem answered_append {es : List Deed} {a : Outcome SessionId}
    (h : a ∈ es.filterMap Deed.started?) (d : Deed) : a ∈ (es ++ [d]).filterMap Deed.started? := by
  rw [List.filterMap_append]
  exact List.mem_append_left _ h

theorem kept_onCourse (limit : Duration) (f : FlightId) (vacant : Prop) :
    Aspect.Kept limit (· ≠ .halts) f (OnCourse vacant) where
  turns := by
    intro es s p q s' course _ step
    cases step with
    | opens =>
      obtain ⟨settled, none, unstarted⟩ := course
      exact ⟨settled.allows, none, (filterMap_keep rfl es).trans unstarted⟩
    | enters _ => exact ⟨rfl, course.2.1, (filterMap_keep rfl es).trans course.2.2⟩
    | isRejected forbidden => cases forbidden.symm.trans course.1
    | takes live =>
      obtain ⟨there, none, unstarted⟩ := course
      refine ⟨there, fun vacant => ?_, (filterMap_keep rfl es).trans unstarted⟩
      cases live.symm.trans (none vacant)
    | passes _ => exact ⟨course.1, (filterMap_keep rfl es).trans course.2.2⟩
    | fails => exact answered_append course _
    | installs _ => exact ⟨_, rfl, answered_append course.2 _⟩
    | isOverruled elsewhere => exact (elsewhere course.1).elim
    | @clears o =>
      cases o with
      | ok g =>
        obtain ⟨c, _, answered⟩ := course
        exact ⟨c, answered_append answered _⟩
      | error e => exact answered_append (a := .failed e) course _
  calls := by
    intro es s p e q course call _
    have first {x : Timed (Outcome SessionId)} (unstarted : es.filterMap Deed.started? = []) :
        (es ++ [Deed.calls f ⟨.start, x⟩]).filterMap Deed.started? = [x.answer] := by
      rw [List.filterMap_append, unstarted]
      rfl
    have given {x : Timed (Outcome SessionId)} (unstarted : es.filterMap Deed.started? = []) :
        x.answer ∈ (es ++ [Deed.calls f ⟨.start, x⟩]).filterMap Deed.started? :=
      first unstarted ▸ List.mem_singleton_self _
    cases call with
    | starts => exact ⟨course.1, given course.2⟩
    | @startFails _ delay e => exact given (x := ⟨delay, .failed e⟩) course.2
    | startCrashes =>
      refine ⟨fun _ => ⟨_, given course.2⟩, fun c answered => ?_⟩
      rw [first course.2] at answered
      cases List.mem_singleton.mp answered
    | retires _ | retireKills => exact ⟨course.1, (filterMap_keep rfl es).trans course.2.2⟩
    | retireFails _ =>
      exact ⟨course.1, course.2.1, (filterMap_keep rfl es).trans course.2.2⟩
    | retireCrashes _ =>
      refine ⟨fun vacant => (course.2.1 vacant).elim, fun c answered => ?_⟩
      rw [filterMap_keep rfl, course.2.2] at answered
      cases answered
    | discards _ | discardFails _ | discardCrashes _ | discardKills => exact course.elim
  halted _ _ allowed := (allowed rfl).elim
  landed {es s o} _ course := by
    cases o with
    | ok g => exact course
    | error e => exact course

end FlightPhase

namespace Traffic

variable {t u : Traffic} {limit : Duration} {d : Deed} {f : FlightId} {b : Bool}

/-- A call for a restart joins the pending flight, or a new one if there is none. -/
theorem Step.of_joins (step : Step limit t (.joins f b) u) :
    t.supervisor.pending = some f ∧ b = false ∧ u.flights = t.flights ∧
      u.supervisor = t.supervisor ∨
    t.supervisor.pending = none ∧ b = true ∧ f = t.supervisor.flights ∧
      u.flights = (f, .opening) ::ₘ t.flights ∧
      u.supervisor = { t.supervisor with pending := some f, flights := f + 1 } := by
  cases step with
  | joins pending => exact Or.inl ⟨pending, rfl, rfl, rfl⟩
  | creates free => exact Or.inr ⟨free, rfl, rfl, rfl, rfl⟩

/-- The way is free only if it was, or if a flight frees it. -/
theorem Step.frees (step : Step limit t d u) (sound : t.Sound)
    (free : u.supervisor.pending = none) :
    u.supervisor = t.supervisor ∨ d = .halts ∨ ∃ f o, (f, .clearing o) ∈ t.flights ∧
      u.supervisor = t.supervisor.clear := by
  cases step with
  | creates taken => cases free
  | stopTurns going turn => exact Or.inr (Or.inl rfl)
  | @turns f p rest step flying turn =>
    have there : (f, p) ∈ t.flights := by simp [flying]
    have turns := FlightPhase.turns_of_locked (sound.fits _ there) turn
    have pending := (sound.pending _ there).mp turns.isLanded_eq.1
    obtain ⟨_, ⟨_, same⟩ | ⟨o, rfl, _, cleared⟩⟩ := turns.passage f
    · cases free.symm.trans (same.trans pending)
    · exact Or.inr (Or.inr ⟨f, o, there, cleared⟩)
  | _ => exact Or.inl rfl

end Traffic

namespace Kernel

variable {σ : Type} {k : Kernel σ} {f : FlightId} {p : FlightPhase} {vacant : Prop}

/-- A flight on its course stays on it, and so do all flights after it. -/
theorem Proper.play_course (proper : k.Proper) (flying : (f, p) ∈ k.traffic.flights)
    (pending : k.supervisor.pending = some f) (course : p.OnCourse vacant [] k.supervisor)
    (moves : List (Move σ)) (undisturbed : .halts ∉ k.deeds moves) {g : FlightId} (hg : f ≤ g) :
    (k.play moves).traffic.Carries (FlightPhase.OnCourse (vacant ∧ g = f)) g
      (deedsBy g (k.deeds moves)) := by
  have last : f + 1 = k.supervisor.flights := proper.regular.last f pending
  have only {g : FlightId} (hg : f ≤ g) (known : g < k.supervisor.flights) : g = f :=
    Nat.le_antisymm (Nat.lt_succ_iff.mp (known.trans_eq last.symm)) hg
  refine proper.play_carries (f ≤ ·) (fun _ => [])
    (I := fun g => FlightPhase.OnCourse (vacant ∧ g = f))
    (fun g _ => FlightPhase.kept_onCourse _ g _)
    (fun g hg unknown => ⟨rfl, fun s settled => ⟨settled, fun ⟨_, same⟩ => ?_, rfl⟩⟩)
    (fun g hg => ⟨fun q hq => ?_, fun o arrived => ?_⟩) moves
    (fun d hd same => undisturbed (same ▸ hd)) g hg
  · subst same
    exact absurd (proper.regular.sound.known _ flying) (Nat.not_lt_of_le unknown)
  · obtain rfl := only hg (proper.regular.sound.known _ hq)
    obtain rfl := proper.regular.sound.phase_unique flying hq
    have same : (vacant ∧ g = g) = vacant := by simp
    rw [same]
    exact course
  · obtain rfl := only hg (proper.regular.attended.landed _ arrived).1
    exact (proper.regular.not_both flying arrived).elim

/-- When no flight is on its way, the last one has left a live session unless it failed. -/
theorem Proper.play_live (proper : k.Proper) (flying : (f, p) ∈ k.traffic.flights)
    (pending : k.supervisor.pending = some f) (course : p.OnCourse vacant [] k.supervisor)
    (moves : List (Move σ)) (undisturbed : .halts ∉ k.deeds moves) {g : FlightId} (hg : f ≤ g)
    (works : ∀ e, .failed e ∉ startsBy g (k.deeds moves))
    (free : (k.play moves).supervisor.pending = none)
    (last : (k.play moves).supervisor.flights = g + 1) :
    ∃ l ∈ (k.play moves).supervisor.lease?, .value l.session ∈ startsBy g (k.deeds moves) := by
  induction moves using List.reverseRecOn with
  | nil => cases pending.symm.trans free
  | append_singleton past m ih =>
    have regular : (k.play past).traffic.Regular := (proper.play past).regular
    rw [play_append] at free last ⊢
    rw [deeds_append] at undisturbed
    rw [deeds_append, startsBy_append] at works ⊢
    have calm : .halts ∉ k.deeds past := fun h => undisturbed (List.mem_append_left _ h)
    have worked (e : ToolingError) : .failed e ∉ startsBy g (k.deeds past) := fun h =>
      works e (List.mem_append_left _ h)
    have before (same : ((k.play past).move m).supervisor = (k.play past).supervisor) :
        ∃ l ∈ ((k.play past).play [m]).supervisor.lease?, .value l.session ∈
          startsBy g (k.deeds past) ++ startsBy g ((k.play past).deeds [m]) := by
      simp only [play_cons, play_nil, same] at free last ⊢
      obtain ⟨l, lease, given⟩ := ih calm worked free last
      exact ⟨l, lease, List.mem_append_left _ given⟩
    -- The way was free before, or a flight frees it now. This is the newest one, and it has just
    -- made its session the live one.
    rcases (move_traffic (proper.play past).orderly m).cases with still | ⟨d, deed, moved⟩
    · exact before (congrArg Traffic.supervisor still)
    · rcases moved.frees regular.sound free with same | rfl | ⟨h, o, clearing, cleared⟩
      · exact before same
      · simp [deed] at undisturbed
      · have active := (regular.sound.pending _ clearing).mp rfl
        have newest := regular.last h active
        have same : ((k.play past).move m).supervisor = (k.play past).supervisor.clear := cleared
        simp only [play_cons, play_nil, same] at last ⊢
        obtain rfl : h = g := Nat.succ.inj (newest.trans last)
        have ended := (proper.play_course flying pending course past calm hg).flying _ clearing
        cases o with
        | ok generation =>
          obtain ⟨c, lease, given⟩ := ended
          exact ⟨⟨c, generation⟩, lease, List.mem_append_left _ given⟩
        | error e => exact (worked e ended).elim

/-- How a flight ends that no stop disturbs. -/
theorem Proper.course_ends (proper : k.Proper) (flying : (f, p) ∈ k.traffic.flights)
    (pending : k.supervisor.pending = some f) (course : p.OnCourse vacant [] k.supervisor)
    (moves : List (Move σ)) (undisturbed : .halts ∉ k.deeds moves) {o : FlightOutcome}
    (arrived : (f, o) ∈ (k.play moves).landings) :
    (∃ g c, o = .ok g ∧ .value c ∈ startsBy f (k.deeds moves)) ∨
    (∃ e, o = .error e ∧ .failed e ∈ startsBy f (k.deeds moves)) ∨
    (∃ m, o = .error (.start (FlightPhase.crashReport m))) ∧
      (vacant → ∃ m, .crashed m ∈ startsBy f (k.deeds moves)) ∧
      ∀ c, .value c ∉ startsBy f (k.deeds moves) := by
  obtain ⟨past, s, q, did, ended, course⟩ :=
    (proper.play_course flying pending course moves undisturbed le_rfl).arrived o arrived
  have same : startsBy f (k.deeds moves) = past.filterMap Deed.started? := by
    rw [startsBy, did, filterMap_keep rfl]
  rw [same]
  cases q with
  | landed o' =>
    cases ended
    cases o with
    | ok g =>
      obtain ⟨c, given⟩ := course
      exact Or.inl ⟨g, c, rfl, given⟩
    | error e => exact Or.inr (Or.inl ⟨e, rfl, course⟩)
  | crashed m =>
    cases ended
    exact Or.inr (Or.inr ⟨⟨m, rfl⟩, fun h => course.1 ⟨h, rfl⟩, course.2⟩)
  | _ => cases ended

/-- A call for a restart is no deed of a flight. -/
theorem deeds_of_joins {i : Nat} {b : Bool} (call : k.deed? (.go i) = some (.joins f b))
    (later : List (Move σ)) :
    k.deeds (.go i :: later) = .joins f b :: (k.move (.go i)).deeds later ∧
      ∀ g, deedsBy g (k.deeds (.go i :: later)) = deedsBy g ((k.move (.go i)).deeds later) := by
  have split : k.deeds (.go i :: later) = .joins f b :: (k.move (.go i)).deeds later := by
    rw [deeds_cons, call]
    rfl
  refine ⟨split, fun g => ?_⟩
  rw [split, ← List.singleton_append, deedsBy_append, deedsBy_other (by simp [Deed.flight?]),
    List.nil_append]

/-- The pending flight, if there is one, has yet to move the lifecycle. It has not looked at it
yet, or it has found a kernel that was started or stopped before. -/
def Unmoved (k : Kernel σ) : Prop :=
  ∀ f, k.supervisor.pending = some f →
    (f, .opening) ∈ k.traffic.flights ∨ (f, .entering .restarting) ∈ k.traffic.flights

/-- Whoever calls for a restart of a stopped kernel joins a flight that is on its course. -/
theorem Proper.joins_course {i : Nat} {b : Bool} (proper : k.Proper)
    (stopped : k.supervisor.lifecycle = .stopped) (unmoved : k.Unmoved)
    (call : k.deed? (.go i) = some (.joins f b)) :
    (k.move (.go i)).supervisor.pending = some f ∧
      ∃ p, (f, p) ∈ (k.move (.go i)).traffic.flights ∧
        p.OnCourse True [] (k.move (.go i)).supervisor := by
  have none : k.supervisor.session = none :=
    proper.regular.sound.consistent.idle (Or.inr (Or.inr stopped))
  have settled : k.supervisor.Settled := Or.inr (Or.inr ⟨stopped, none⟩)
  have moved := move_traffic proper.orderly (.go i)
  rw [call] at moved
  rcases Traffic.Step.of_joins moved with
    ⟨pending, _, flights, same⟩ | ⟨_, _, _, flights, created⟩
  · have same : (k.move (.go i)).supervisor = k.supervisor := same
    rw [same, flights]
    rcases unmoved f pending with opening | entering
    · exact ⟨pending, _, opening, settled, fun _ => none, rfl⟩
    · exact ⟨pending, _, entering, by rw [stopped]; rfl, fun _ => none, rfl⟩
  · have created : (k.move (.go i)).supervisor =
        { k.supervisor with pending := some f, flights := f + 1 } := created
    rw [created, flights]
    exact ⟨rfl, _, Multiset.mem_cons_self _ _, settled, fun _ => none, rfl⟩

/-- A restart revives a stopped kernel, if the tooling starts and no stop takes its step from
the call on, unless a flight is on its way that has moved the lifecycle already. The call gets
the generation of a new session as soon as the flight is over, and whenever no flight is on its
way afterwards the kernel is running with a live session. -/
theorem restart_revives {config : KernelConfig} {backend : Backend σ} {tooling : σ}
    {obedient : Bool} {earlier later : List (Move σ)} {i : Nat} {f : FlightId} {b : Bool}
    (stopped : ((new config backend tooling obedient).play earlier).supervisor.lifecycle = .stopped)
    (unmoved : ((new config backend tooling obedient).play earlier).Unmoved)
    (call : ((new config backend tooling obedient).play earlier).deed? (.go i) =
      some (.joins f b))
    (undisturbed : .halts ∉
      ((new config backend tooling obedient).play earlier).deeds (.go i :: later))
    (starts : ∀ a ∈ (((new config backend tooling obedient).play earlier).deeds
      (.go i :: later)).filterMap Deed.started?, ∃ c, a = .value c) :
    let k := (new config backend tooling obedient).play earlier
    let moves := .go i :: later
    let k' := k.play moves
    (∃ log, k.deedsOf i moves = .joins f b :: log ∧ k'.Awaits f (k.track i moves) log ∧
      ∀ d ∈ log.head?, ∃ g, d = .returns f (.ok g)) ∧
    (∀ o, (f, o) ∈ k'.landings → ∃ g, o = .ok g) ∧
    (11 ≤ (deedsBy f (k.deeds moves)).length → ∃ g, (f, .ok g) ∈ k'.landings) ∧
    (k'.supervisor.pending = none →
      k'.supervisor.lifecycle = .running ∧ ∃ l, k'.supervisor.lease? = some l) := by
  intro k moves k'
  have proper : k.Proper := (new_proper config backend tooling obedient).play earlier
  obtain ⟨pending, p, flying, course⟩ := proper.joins_course stopped unmoved call
  let k₁ := k.move (.go i)
  have proper₁ : k₁.Proper := proper.move _
  obtain ⟨split, same⟩ := deeds_of_joins call later
  have calm : .halts ∉ k₁.deeds later := fun h => undisturbed (by
    rw [split]
    exact List.mem_cons_of_mem _ h)
  have works (g : FlightId) {a : Outcome SessionId} (h : a ∈ startsBy g (k₁.deeds later)) :
      ∃ c, a = .value c := by
    refine starts a (startsBy_subset g _ ?_)
    rw [startsBy, same]
    exact h
  have succeeds {o : FlightOutcome} (arrived : (f, o) ∈ k'.landings) : ∃ g, o = .ok g := by
    rcases proper₁.course_ends flying pending course later calm arrived with
      ⟨g, _, rfl, _⟩ | ⟨e, rfl, failed⟩ | ⟨_, crashed, _⟩
    · exact ⟨g, rfl⟩
    · obtain ⟨c, impossible⟩ := works f failed
      cases impossible
    · obtain ⟨m, crash⟩ := crashed trivial
      obtain ⟨c, impossible⟩ := works f crash
      cases impossible
  obtain ⟨log, did, awaits⟩ := awaits_of_joins proper call later
  refine ⟨⟨log, did, awaits, fun d hd => ?_⟩, fun o => succeeds, fun often => ?_, fun free => ?_⟩
  · obtain ⟨o, rfl, arrived⟩ := awaits.returned d hd
    obtain ⟨g, rfl⟩ := succeeds arrived
    exact ⟨g, rfl⟩
  · rw [same] at often
    obtain ⟨o, arrived⟩ := proper₁.flight_lands (proper₁.regular.sound.known _ flying) later often
    obtain ⟨g, rfl⟩ := succeeds arrived
    exact ⟨g, arrived⟩
  · have created := proper₁.still_created (proper₁.regular.sound.known _ flying) later
    let g := k'.supervisor.flights - 1
    have last : k'.supervisor.flights = g + 1 :=
      (Nat.sub_add_cancel (Nat.succ_le_of_lt (Nat.zero_lt_of_lt created))).symm
    have newer : f ≤ g := Nat.lt_succ_iff.mp (created.trans_eq last)
    obtain ⟨l, lease, _⟩ := proper₁.play_live flying pending course later calm newer
      (fun e failed => by
        obtain ⟨c, impossible⟩ := works g failed
        cases impossible) free last
    exact ⟨Supervisor.running_of_lease lease, l, lease⟩

/-- A kernel that was stopped before it was started, and a call for a restart. -/
def stoppedAtOnce : List (Move Script) := [.stop 0, .go 0, .go 0, .restart 1]

/-- The flight goes on until it is over, and then whoever called for the restart. -/
def revived : List (Move Script) :=
  [.go 2, .go 2, .go 2, .go 2, .go 2, .go 2, .go 2, .go 1]

theorem stopped_kernel_revived :
    .returns 0 (.ok 1) ∈ (rehearsal.play stoppedAtOnce).deedsOf 1 (.go 1 :: revived) ∧
      ((rehearsal.play stoppedAtOnce).play (.go 1 :: revived)).supervisor.lifecycle =
        .running := by
  have did : (rehearsal.play stoppedAtOnce).deeds (.go 1 :: revived) =
      [.joins 0 true, .turns 0 .opening (.entering .restarting),
        .turns 0 (.entering .restarting) (.taking .restarting),
        .turns 0 (.taking .restarting) (.starting .restarting),
        .calls 0 ⟨.start, .now (.value 1)⟩,
        .turns 0 (.installing .restarting 1) (.clearing (.ok 1)),
        .turns 0 (.clearing (.ok 1)) (.landed (.ok 1)), .lands 0 (.ok 1),
        .returns 0 (.ok 1)] := rfl
  have unmoved : (rehearsal.play stoppedAtOnce).Unmoved := by
    intro f pending
    cases pending
  have undisturbed : .halts ∉ (rehearsal.play stoppedAtOnce).deeds (.go 1 :: revived) := by
    rw [did]
    simp
  have starts : ∀ a ∈ ((rehearsal.play stoppedAtOnce).deeds
      (.go 1 :: revived)).filterMap Deed.started?, ∃ c, a = .value c := by
    intro a given
    rw [did] at given
    cases List.mem_singleton.mp given
    exact ⟨1, rfl⟩
  obtain ⟨⟨log, own, _, succeeds⟩, _, _, leaves⟩ :=
    restart_revives rfl unmoved rfl undisturbed starts
  refine ⟨?_, (leaves rfl).1⟩
  have whole : (rehearsal.play stoppedAtOnce).deedsOf 1 (.go 1 :: revived) =
      [.joins 0 true, .returns 0 (.ok 1)] := rfl
  rw [whole]
  simp

/-- A restart is called for while a flight that was overruled is still on its way. -/
def restartDuringOverruled : List (Move Script) := stopDuringStart ++ [.go 2, .restart 1]

/-- The flight goes on until it is over, and then the second call for a restart. -/
def overruledTogether : List (Move Script) := [.go 1, .go 1, .go 1, .go 1, .go 1, .go 2]

/-- A call that joins an overruled flight fails with it, and the kernel stays stopped. -/
theorem overruled_flight_joined :
    (rehearsal.play restartDuringOverruled).supervisor.lifecycle = .stopped ∧
      (rehearsal.play restartDuringOverruled).deed? (.go 3) = some (.joins 0 false) ∧
      .halts ∉ (rehearsal.play restartDuringOverruled).deeds (.go 3 :: overruledTogether) ∧
      (∀ a ∈ ((rehearsal.play restartDuringOverruled).deeds
          (.go 3 :: overruledTogether)).filterMap Deed.started?, ∃ c, a = .value c) ∧
      (rehearsal.play restartDuringOverruled).deedsOf 3 (.go 3 :: overruledTogether) =
        [.joins 0 false, .returns 0 (.error .notRunning)] ∧
      ((rehearsal.play restartDuringOverruled).play
        (.go 3 :: overruledTogether)).supervisor.lifecycle = .stopped := by
  have did : (rehearsal.play restartDuringOverruled).deeds (.go 3 :: overruledTogether) =
      [.joins 0 false, .calls 0 ⟨.start, .now (.value 1)⟩,
        .turns 0 (.installing .starting 1) (.discarding (.disposing 1)),
        .calls 0 ⟨.dispose 1, .now (.value ())⟩,
        .turns 0 (.clearing (.error .notRunning)) (.landed (.error .notRunning)),
        .lands 0 (.error .notRunning), .returns 0 (.error .notRunning)] := rfl
  refine ⟨rfl, rfl, ?_, fun a given => ?_, rfl, rfl⟩
  · rw [did]
    simp
  · rw [did] at given
    cases List.mem_singleton.mp given
    exact ⟨1, rfl⟩

end Kernel

end NotebookKernel
