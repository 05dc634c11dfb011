import NotebookKernel.Proofs.Closing
import NotebookKernel.Proofs.Course

/-!
# What is left when a kernel has been torn down

When the kernel is torn down, its tooling is stopped once and its request loops are ended. Flights
are neither stopped nor ended. The books tell where every session is then: whoever has to close it
has asked it to, unless a flight is still under way or has moved the lifecycle after the stop.
-/

namespace NotebookKernel

open Job

/-! ## Nobody else stops the tooling -/

/-- Work that calls for restarts, but not for a stop. -/
def Work.OnlyRestarts : Work → Prop
  | .job j => j.Within (· = .restart) fun _ => True
  | .joined _ next => ∀ o, (next o).Within (· = .restart) fun _ => True
  | .stopping _ _ => False
  | .flying _ _ => True

namespace Kernel

variable {σ : Type} {k j : Kernel σ} {past : Prop}

/-- Only request loops stop the tooling, and nothing does when they are over. -/
structure LoopsStop (k : Kernel σ) (past : Prop) : Prop where
  aside : ∀ s ∈ k.strands, s.loop = none ∨ past → s.work.OnlyRestarts
  ended : past → ∀ c, (k.lane c).ended = true

namespace LoopsStop

theorem congr (h : k.LoopsStop past) (strands : j.strands = k.strands)
    (lanes : ∀ c, (j.lane c).ended = (k.lane c).ended) : j.LoopsStop past where
  aside s member := h.aside s (strands ▸ member)
  ended gone c := (lanes c).trans (h.ended gone c)

theorem mono {past' : Prop} (h : k.LoopsStop past) (fewer : past' → past) :
    k.LoopsStop past' where
  aside s member own := h.aside s member (own.imp_right fewer)
  ended gone := h.ended (fewer gone)

theorem spawn (h : k.LoopsStop past) {loop : Option RequestChannel} {w : Work}
    (aside : loop = none ∨ past → w.OnlyRestarts) : (k.spawn loop w).LoopsStop past where
  aside s member own := by
    rcases List.mem_append.mp member with old | new
    · exact h.aside s old own
    · rw [List.mem_singleton.mp new] at own ⊢
      exact aside own
  ended gone c := by
    rw [spawn_lane]
    exact h.ended gone c

theorem feedLane (h : k.LoopsStop past) (c : RequestChannel) : (k.feedLane c).LoopsStop past := by
  unfold Kernel.feedLane
  split
  · exact h
  · rename_i idle
    have going : (k.lane c).ended = false := by simp_all
    split
    · refine ⟨by simpa using h.aside, fun gone d => ?_⟩
      rw [note_lane, withLane_lane]
      split
      · rfl
      · exact h.ended gone d
    · split
      · exact h
      · refine ⟨fun s member own => ?_, fun gone d => ?_⟩
        · rw [spawn_strands, note_strands, withLane_strands, List.mem_append,
            List.mem_singleton] at member
          rcases member with old | rfl
          · exact h.aside s old own
          · rcases own with none | gone
            · cases none
            · cases going.symm.trans (h.ended gone c)
        · cases going.symm.trans (h.ended gone c)

theorem release (h : k.LoopsStop past) (c : RequestChannel) (r : Request) (v : Verdict) :
    (k.release c r v).LoopsStop past := by
  have freed : ((k.withLane c (k.lane c).release).note (.served c r v)).LoopsStop past := by
    refine h.congr (by simp) fun d => ?_
    rw [note_lane, withLane_lane]
    split
    · rename_i here
      rw [← here]
      rfl
    · rfl
  exact (freed.feedLane .control).feedLane .shell

theorem finish (h : k.LoopsStop past) (f : Finish) : (k.finish f).LoopsStop past := by
  cases f with
  | shell r s v =>
    have same : ({ k with session := s } : Kernel σ).LoopsStop past :=
      h.congr rfl fun c => by cases c <;> rfl
    exact same.release .shell r v
  | control r v => exact h.release .control r v
  | call tag result => exact h.congr rfl fun c => by rw [Kernel.finish, note_lane]

end LoopsStop

theorem takeTurn_onlyRestarts {φ : Type} (k : Kernel σ) (turn : Turn φ) {work : φ → Work}
    (aside : ∀ p, (work p).OnlyRestarts) :
    ∀ x ∈ (k.takeTurn turn work (none, k)).1, x.2.OnlyRestarts := by
  intro x hx
  cases turn with
  | locked step =>
    cases hx
    exact aside _
  | call c next =>
    cases hx
    exact aside _
  | finished => cases hx

/-- Work that calls for no stop goes on to such work, and all work only begins such work. -/
theorem LoopsStop.proceed (h : k.LoopsStop past) (loop : Option RequestChannel) (w : Work) :
    (w.OnlyRestarts → ∀ x ∈ (k.proceed loop w).1, x.2.OnlyRestarts) ∧
      (k.proceed loop w).2.LoopsStop past := by
  have lanes {i : Kernel σ} (shell : i.shell = k.shell) (control : i.control = k.control)
      (c : RequestChannel) : (i.lane c).ended = (k.lane c).ended := by
    cases c with
    | shell => exact congrArg Lane.ended shell
    | control => exact congrArg Lane.ended control
  have turned {φ : Type} (turn : Turn φ) (work : φ → Work) :
      (k.takeTurn turn work (none, k)).2.LoopsStop past := by
    cases turn <;> exact h.congr rfl (lanes rfl rfl)
  cases w with
  | job j =>
    cases j with
    | done f => exact ⟨fun _ _ hx => (Option.not_mem_none _ hx).elim, h.finish f⟩
    | act a next =>
      refine ⟨fun aside x hx => ?_, ?_⟩
      · obtain ⟨rfl, rest⟩ := aside
        cases hx
        exact rest
      · cases a with
        | restart =>
          simp only [Kernel.proceed, act, atOnce]
          split
          · have joined :
                ({ k with supervisor := k.supervisor.join.2.2 } : Kernel σ).LoopsStop past :=
              h.congr rfl (lanes rfl rfl)
            exact joined.spawn fun _ => trivial
          · exact h.congr rfl (lanes rfl rfl)
        | _ => exact h.congr rfl (lanes rfl rfl)
  | joined f next =>
    simp only [Kernel.proceed]
    split
    · refine ⟨fun aside x hx => ?_, h⟩
      cases hx
      exact aside _
    · refine ⟨fun aside x hx => ?_, h⟩
      cases hx
      exact aside
  | stopping p next =>
    refine ⟨False.elim, ?_⟩
    simp only [Kernel.proceed]
    split
    · exact h
    · exact turned ..
  | flying f p =>
    simp only [Kernel.proceed]
    split
    · exact ⟨fun _ _ hx => (Option.not_mem_none _ hx).elim, h.congr rfl (lanes rfl rfl)⟩
    · exact ⟨fun _ => takeTurn_onlyRestarts _ _ fun _ => trivial, turned ..⟩

theorem LoopsStop.move (h : k.LoopsStop past) {m : Move σ} (inside : ∀ tag, m ≠ .stop tag) :
    (k.move m).LoopsStop past := by
  have same {j : Kernel σ} (strands : j.strands = k.strands)
      (lanes : ∀ c, j.lane c = k.lane c) : j.LoopsStop past :=
    h.congr strands fun c => by rw [lanes]
  cases m with
  | go i =>
    simp only [Kernel.move]
    split
    · rename_i s found
      have bare : k.bare.LoopsStop past := ⟨by simp, by simpa using h.ended⟩
      obtain ⟨goes, begins⟩ := bare.proceed s.loop s.work
      refine ⟨fun t member own => ?_, fun gone c => ?_⟩
      · simp only [resume_strands, Continuation.strand, List.mem_append, Option.mem_toList,
          Option.map_eq_some_iff] at member
        rcases member with ((before | ⟨⟨wake, work⟩, next, rfl⟩) | after) | new
        · exact h.aside t (List.mem_of_mem_take before) own
        · exact goes (h.aside s (List.mem_of_getElem? found) own) _ next
        · exact h.aside t (List.mem_of_mem_drop after) own
        · exact begins.aside t new own
      · rw [resume_lane]
        exact begins.ended gone c
    · exact h
  | look c => exact h.feedLane c
  | arrive c m =>
    simp only [Kernel.move]
    split
    · unfold enqueue
      split
      · exact h
      · refine h.congr (by simp) fun d => ?_
        rw [withLane_lane]
        split
        · rename_i here
          rw [← here]
        · rfl
    · exact h
  | restart tag => exact h.spawn fun _ => ⟨rfl, fun _ => trivial⟩
  | stop tag => exact absurd rfl (inside tag)
  | leave t =>
    simp only [Kernel.move]
    split
    · exact same rfl fun c => by cases c <;> rfl
    · exact h
  | raise | wait t | change tooling => exact same rfl fun c => by cases c <;> rfl

theorem LoopsStop.play (h : k.LoopsStop past) {moves : List (Move σ)}
    (inside : ∀ m ∈ moves, ∀ tag, m ≠ .stop tag) : (k.play moves).LoopsStop past := by
  induction moves generalizing k with
  | nil => exact h
  | cons m rest ih =>
    exact ih (h.move (inside m List.mem_cons_self)) fun m' member =>
      inside m' (List.mem_cons_of_mem m member)

/-! ## The end of the loops -/

/-- No stop goes on when the loops have been ended. -/
theorem LoopsStop.abortLoops (h : k.LoopsStop past) : k.abortLoops.LoopsStop True where
  aside s member _ := by
    obtain ⟨before, own⟩ := List.mem_filter.mp member
    exact h.aside s before (Or.inl (Option.isNone_iff_eq_none.mp own))
  ended _ c := by cases c <;> rfl

theorem LoopsStop.stops (h : k.LoopsStop True) : k.traffic.stops = 0 := by
  simp only [traffic, trafficOf, Multiset.coe_eq_zero, List.filterMap_eq_nil_iff]
  intro s member
  have restarts := h.aside s member (Or.inr trivial)
  cases work : s.work with
  | stopping p next =>
    rw [work] at restarts
    exact restarts.elim
  | _ => rfl

/-- Loops that can be ended hold no session. -/
theorem stops_hold_nothing (loops : k.LoopsStop past) (free : k.isInterruptible = true) :
    k.traffic.stops.bind StopPhase.holds = 0 := by
  refine (Multiset.bind_congr fun p member => ?_).trans (Multiset.bind_zero _)
  obtain ⟨s, inside, stops⟩ := List.mem_filterMap.mp (Multiset.mem_coe.mp member)
  obtain ⟨next, work⟩ : ∃ next, s.work = .stopping p next := by
    cases work : s.work <;> simp_all [Work.stop?]
  have own : s.loop.isSome = true := by
    cases loop : s.loop with
    | some c => rfl
    | none =>
      have restarts := loops.aside s inside (Or.inl loop)
      rw [work] at restarts
      exact restarts.elim
  have open_ : s.isClosing = false := by
    by_contra closing
    have blocked := List.any_eq_true.mpr ⟨s, inside, by simpa using closing⟩
    simp [isInterruptible, blocked] at free
  rw [Strand.isClosing, own, work, Bool.true_and] at open_
  cases p with
  | retiring old =>
    cases old with
    | disposing c => cases open_
    | killing c => rfl
  | _ => rfl

end Kernel

namespace Traffic

variable {t u : Traffic} {limit : Duration} {d : Deed}

/-- Nobody holds a session when the kernel has been stopped and nothing is under way. -/
theorem nothing_held (still : t.supervisor.Halted) (landed : t.flights = 0)
    (stops : t.stops = 0) : t.held = 0 ∧ t.condemned = 0 ∧ t.supervisor.live = 0 := by
  refine ⟨?_, ?_, ?_⟩
  · simp [held, landed, stops]
  · simp [condemned, landed, stops]
  · simp [Supervisor.live, still.2]

/-- A kernel that has been stopped stays so, unless a flight moves its lifecycle. -/
theorem Step.halted (step : Step limit t d u) (sound : t.Sound) (halted : t.supervisor.Halted)
    (calm : ∀ f target, d ≠ .turns f (.entering target) (.taking target)) :
    u.supervisor.Halted := by
  cases step with
  | @turns f p rest step flying turn =>
    have fits := sound.fits (f, p) (by simp [flying])
    have turns := FlightPhase.turns_of_locked fits turn
    generalize step t.supervisor = after at calm turns
    obtain ⟨q, s⟩ := after
    cases turns with
    | enters => exact absurd rfl (calm f _)
    | takes | passes => exact ⟨halted.1, rfl⟩
    | fails =>
      have moved := t.supervisor.tryMove_stopped
      exact ⟨moved.1, moved.2.1.trans halted.2⟩
    | installs there =>
      have target := fits.1
      rw [← there, halted.1] at target
      rcases target with other | other <;> cases other
    | _ => exact halted
  | stopTurns going turn =>
    rw [StopPhase.stops_of_locked turn]
    exact t.supervisor.stop_halts
  | _ => exact halted

end Traffic

namespace Deployment

variable {σ : Type} {x y : Deployment σ} {m : Motion σ} {e : Exchange σ} {t : Teardown}
  {config : KernelConfig} {cut : Multiset StopPhase}

/-! ## Where the kernel is torn down -/

/-- Where something comes to hold, one motion makes it hold. -/
theorem exists_crossing {P : Deployment σ → Prop} (before : ¬P x) {ms : List (Motion σ)}
    (after : P (x.play ms)) : ∃ first m last, ms = first ++ m :: last ∧ ¬P (x.play first) ∧
      P ((x.play first).step m) := by
  induction ms generalizing x with
  | nil => exact absurd after before
  | cons m rest ih =>
    by_cases crossed : P (x.step m)
    · exact ⟨[], m, rest, rfl, before, crossed⟩
    · obtain ⟨first, m', last, rfl, still, crosses⟩ := ih crossed after
      exact ⟨m :: first, m', last, rfl, still, crosses⟩

theorem Leads.stays_over (h : x.Leads m e t) (gone : x.teardown = .gone) : t = .gone := by
  cases h with
  | closes awaits => cases gone.symm.trans awaits
  | stops closing => cases gone.symm.trans closing
  | turns stopping => cases gone.symm.trans stopping
  | aborts => rfl
  | _ => exact gone

theorem step_over (gone : x.teardown = .gone) (m : Motion σ) : (x.step m).teardown = .gone := by
  rcases x.step_cases m with same | ⟨e, t, led, same⟩
  · rw [same]
    exact gone
  · rw [same]
    exact led.stays_over gone

theorem play_over (gone : x.teardown = .gone) (ms : List (Motion σ)) :
    (x.play ms).teardown = .gone := by
  induction ms generalizing x with
  | nil => exact gone
  | cons m rest ih => exact ih (step_over gone m)

/-- The loops are ended when the stop is. -/
theorem ends_loops (going : x.teardown ≠ .gone) (gone : (x.step m).teardown = .gone) :
    m = .tearDown ∧ x.teardown = .stopping .ended ∧ x.kernel.isInterruptible = true ∧
      x.step m = ⟨(x.exchange.withKernel x.kernel.abortLoops).hangUp, .gone⟩ := by
  rcases x.step_cases m with same | ⟨e, t, led, same⟩
  · rw [same] at gone
    exact absurd gone going
  · rw [same] at gone ⊢
    cases led with
    | @aborts p stopping ended free =>
      have done : p = .ended := by
        cases p with
        | ended => rfl
        | _ => cases ended
      exact ⟨rfl, done ▸ stopping, free, rfl⟩
    | closes | stops | turns => cases gone
    | _ => exact absurd gone going

/-- The stop that comes with tearing down has taken the session away. -/
def HasStopped (x : Deployment σ) : Prop := ∃ p, x.teardown = .stopping p ∧ p ≠ .entering

/-- When the stop has taken the session away, the kernel has come to a halt. -/
theorem halts (going : ¬x.HasStopped) (stopped : (x.step m).HasStopped) :
    m = .tearDown ∧ x.teardown = .stopping .entering ∧
      (x.step m).kernel.supervisor.Halted := by
  rcases x.step_cases m with same | ⟨e, t, led, same⟩
  · rw [same] at stopped
    exact absurd stopped going
  · rw [same] at stopped ⊢
    obtain ⟨q, at_, passed⟩ := stopped
    cases led with
    | @turns p stopping ended =>
      have first : p = .entering := by
        by_contra other
        exact going ⟨p, stopping, other⟩
      subst first
      refine ⟨rfl, stopping, ?_⟩
      have taken : (x.kernel.turnStop .entering).2.supervisor = x.kernel.supervisor.stop.2 :=
        StopPhase.stops_of_locked (p := .entering) rfl
      rw [mk_kernel, Exchange.hangUp_kernel, Exchange.withKernel_kernel, taken]
      exact x.kernel.supervisor.stop_halts
    | stops => cases at_; exact absurd rfl passed
    | closes | aborts => cases at_
    | _ => exact absurd ⟨q, at_, passed⟩ going

/-! ## The books -/

theorem Leads.aside (h : x.Leads m e t) (regular : x.Regular config)
    (aside : x.kernel.LoopsStop (x.teardown = .gone)) : e.node.kernel.LoopsStop (t = .gone) := by
  rcases h.kernel regular with ⟨moves, led, inside, further⟩ | ⟨p, _, _, led, at_⟩ |
    ⟨p, _, _, _, led, _⟩
  · rw [led]
    exact (aside.play inside).mono further.mp
  · rw [led]
    refine .mono (aside.congr (Kernel.turnStop_strands ..) fun c => ?_) (by simp [at_])
    rw [Kernel.turnStop_lane]
  · rw [led]
    exact aside.abortLoops.mono fun _ => trivial

/-- Only loops stop the tooling, and the books are balanced if the stops that were cut off are
counted in. -/
structure Accounted (config : KernelConfig) (cut : Multiset StopPhase) (x : Deployment σ) :
    Prop where
  aside : x.kernel.LoopsStop (x.teardown = .gone)
  balanced : (x.traffic.besides cut).Balanced config.disposeTimeout

namespace Accounted

theorem opened (config : KernelConfig) (backend : Backend σ) (tooling : σ) (signer : Signer)
    (endpoints : Endpoints) (stamps : Nat → Stamp) :
    (opened config backend tooling signer endpoints stamps).Accounted config 0 :=
  ⟨⟨fun s member => absurd member List.not_mem_nil, fun gone => by cases gone⟩, .initial _⟩

variable (accounted : x.Accounted config cut)

include accounted

/-- A motion that does not end the loops keeps the books. -/
theorem step (regular : x.Regular config) (m : Motion σ)
    (going : (x.step m).teardown = .gone → x.teardown = .gone) :
    (x.step m).Accounted config cut := by
  rcases x.step_cases m with same | ⟨e, t, led, same⟩
  · rw [same]
    exact accounted
  · rw [same] at going ⊢
    refine ⟨?_, ?_⟩
    · rw [mk_kernel, Exchange.hangUp_kernel]
      exact led.aside regular accounted.aside
    · rw [traffic_of_kernel e.hangUp_kernel]
      rcases (led.traffic regular going).cases with unchanged | ⟨d, _, done⟩
      · rw [unchanged]
        exact accounted.balanced
      · exact accounted.balanced.step (regular.sound.congr rfl rfl) done.besides

/-- Until the loops are ended, no stop is cut off. -/
theorem play (regular : x.Regular config) (ms : List (Motion σ))
    (going : (x.play ms).teardown = .gone → x.teardown = .gone) :
    (x.play ms).Accounted config cut := by
  induction ms generalizing x with
  | nil => exact accounted
  | cons m rest ih =>
    have late (gone : (x.step m).teardown = .gone) : x.teardown = .gone :=
      going (play_over gone rest)
    exact ih (accounted.step regular m late) (regular.step m) fun gone => by
      rw [step_over (going gone)]

omit accounted in
/-- Stops that are cut off when the loops are ended stay on the books. -/
theorem ends (accounted : x.Accounted config 0) (regular : x.Regular config)
    (at_ : x.teardown = .stopping .ended) :
    (⟨(x.exchange.withKernel x.kernel.abortLoops).hangUp, .gone⟩ : Deployment σ).Accounted config
      x.kernel.traffic.stops := by
  have before : x.traffic = x.kernel.traffic.besides {.ended} := by simp only [traffic, at_]
  have flights := Kernel.abortLoops_flights regular.orderly
  have stops := accounted.aside.abortLoops.stops
  have balanced := accounted.balanced
  rw [before] at balanced
  refine ⟨?_, ?_⟩
  · rw [mk_kernel, Exchange.hangUp_kernel]
    exact accounted.aside.abortLoops.mono fun _ => trivial
  · rw [traffic_of_kernel (Exchange.hangUp_kernel _)]
    refine balanced.handsOver rfl ?_ ?_
    · simp only [traffic, Traffic.besides, Traffic.held, flights, stops, mk_kernel,
        Exchange.withKernel_kernel, zero_add, add_zero, Multiset.add_bind,
        Multiset.singleton_bind, StopPhase.holds]
      rfl
    · simp only [traffic, Traffic.besides, Traffic.condemned, flights, stops, mk_kernel,
        Exchange.withKernel_kernel, zero_add, add_zero, Multiset.add_bind,
        Multiset.singleton_bind, StopPhase.condemns]

omit accounted in
/-- When the kernel is torn down, the books are those of the kernel. -/
theorem traffic_of_gone (gone : x.teardown = .gone) : x.traffic = x.kernel.traffic := by
  simp only [traffic, gone]

theorem stops (gone : x.teardown = .gone) : x.kernel.traffic.stops = 0 :=
  (accounted.aside.mono fun _ => gone).stops

/-- If the stops that were cut off held nothing, every session is accounted for. -/
theorem custody (gone : x.teardown = .gone) (nothing : cut.bind StopPhase.holds = 0) :
    x.kernel.traffic.started =
      x.kernel.traffic.held + x.kernel.supervisor.live + x.kernel.traffic.disposed := by
  have all := accounted.balanced.custody
  rw [traffic_of_gone gone] at all
  simp only [Traffic.besides, Traffic.held, Multiset.add_bind, nothing, zero_add] at all
  exact all

/-- What would not close was killed, unless that is still to come or was cut off. -/
theorem kills (gone : x.teardown = .gone) :
    x.kernel.traffic.givenUp config.disposeTimeout =
      x.kernel.traffic.killed + x.kernel.traffic.condemned + cut.bind StopPhase.condemns := by
  have all := accounted.balanced.kills
  rw [traffic_of_gone gone] at all
  simp only [Traffic.besides, Traffic.condemned, Multiset.add_bind] at all
  refine all.trans ?_
  simp only [Traffic.condemned]
  ac_rfl

end Accounted

/-! ## What is left -/

/-- A flight moves the lifecycle. -/
def Relaunches (x : Deployment σ) (m : Motion σ) : Prop :=
  ∃ f target, x.deed? m = some (.turns f (.entering target) (.taking target))

/-- No flight moves the lifecycle while these things happen. -/
def Undisturbed (x : Deployment σ) : List (Motion σ) → Prop
  | [] => True
  | m :: ms => ¬x.Relaunches m ∧ (x.step m).Undisturbed ms

/-- A kernel that has come to a halt stays so, unless a flight moves the lifecycle. -/
theorem halted_step (regular : x.Regular config) (halted : x.kernel.supervisor.Halted)
    (calm : ¬x.Relaunches m) : (x.step m).kernel.supervisor.Halted := by
  rcases x.step_cases m with same | ⟨e, t, led, same⟩
  · rw [same]
    exact halted
  · rw [same, mk_kernel, Exchange.hangUp_kernel]
    by_cases going : t = .gone → x.teardown = .gone
    · rw [← traffic_supervisor] at halted
      rw [show e.node.kernel.supervisor = _ from (traffic_supervisor ⟨e, t⟩).symm]
      rcases (led.traffic regular going).cases with unchanged | ⟨d, deed, step⟩
      · rw [unchanged]
        exact halted
      · exact step.halted regular.sound halted fun f target same => calm ⟨f, target, same ▸ deed⟩
    · cases led with
      | aborts => exact halted
      | closes | stops | turns => exact absurd nofun going
      | _ => exact absurd id going

theorem halted_play (regular : x.Regular config) (halted : x.kernel.supervisor.Halted)
    (ms : List (Motion σ)) (calm : x.Undisturbed ms) : (x.play ms).kernel.supervisor.Halted := by
  induction ms generalizing x with
  | nil => exact halted
  | cons m rest ih =>
    exact ih (regular.step m) (halted_step regular halted calm.1) calm.2

/-- What is left when the kernel has been torn down. No stop goes on. Every session that was
started is live, is held by a flight that is still under way, or was asked to close; one that would
not close was killed, unless a flight has yet to do it or the loop that would have done it was
ended. If no flight has moved the lifecycle since the kernel was stopped, it is still stopped and
has no session. If no flight is under way either, every session was asked to close, and if no loop
was in the middle of a stop when it was ended, those that would not were killed. -/
theorem torn_down_but_for_flights (config : KernelConfig) (backend : Backend σ) (tooling : σ)
    (signer : Signer) (endpoints : Endpoints) (stamps : Nat → Stamp) (ms : List (Motion σ))
    (gone : ((opened config backend tooling signer endpoints stamps).play ms).teardown = .gone) :
    let x := opened config backend tooling signer endpoints stamps
    let t := (x.play ms).kernel.traffic
    let limit := config.disposeTimeout
    ∃ first second third, ms = first ++ .tearDown :: (second ++ .tearDown :: third) ∧
      (x.play first).teardown = .stopping .entering ∧
      ((x.play first).step .tearDown).kernel.supervisor.Halted ∧
      let ending := ((x.play first).step .tearDown).play second
      ending.teardown = .stopping .ended ∧
      t.stops = 0 ∧ t.started = t.held + t.supervisor.live + t.disposed ∧
      t.givenUp limit =
        t.killed + t.condemned + ending.kernel.traffic.stops.bind StopPhase.condemns ∧
      (((x.play first).step .tearDown).Undisturbed (second ++ .tearDown :: third) →
        t.supervisor.Halted ∧
        (t.flights = 0 → t.started = t.disposed ∧
          (ending.kernel.traffic.stops = 0 → t.killed = t.givenUp limit))) := by
  intro x t limit
  have fresh : x.Regular config := opened_regular config backend tooling signer endpoints stamps
  have going : x.teardown ≠ .gone := by simp [x, opened]
  -- One step ends the loops, and one step before takes the session away.
  obtain ⟨before, m, third, rfl, unended, ends⟩ :=
    exists_crossing (P := (·.teardown = .gone)) going gone
  obtain ⟨rfl, ended, free, aborted⟩ := ends_loops unended ends
  have unstopped : ¬x.HasStopped := by simp [x, opened, HasStopped]
  obtain ⟨first, m, second, rfl, entering, stops⟩ := exists_crossing (P := HasStopped) unstopped
    ⟨.ended, ended, by simp⟩
  obtain ⟨rfl, stopping, halted⟩ := halts entering stops
  let stopped := (x.play first).step .tearDown
  let ending := stopped.play second
  let last := (ending.step .tearDown).play third
  have there : x.play (first ++ .tearDown :: second) = ending := by
    rw [play_append, play_cons]
  have finally_ : x.play ((first ++ .tearDown :: second) ++ .tearDown :: third) = last := by
    rw [play_append, there, play_cons]
  rw [there] at ended free aborted ends
  have regular : ending.Regular config := there ▸ fresh.play _
  have open_ : ending.Accounted config 0 := by
    have books := Accounted.opened config backend tooling signer endpoints stamps
    refine there ▸ books.play fresh (first ++ .tearDown :: second) fun late => ?_
    rw [there, ended] at late
    cases late
  have cut : (ending.step .tearDown).Accounted config ending.kernel.traffic.stops :=
    aborted ▸ open_.ends regular ended
  have torn : last.teardown = .gone := play_over ends third
  have books : last.Accounted config ending.kernel.traffic.stops :=
    cut.play (regular.step .tearDown) third fun _ => ends
  have same : t = last.kernel.traffic := congrArg (·.kernel.traffic) finally_
  have nothing := Kernel.stops_hold_nothing open_.aside free
  have stops : t.stops = 0 := same ▸ books.stops torn
  have custody : t.started = t.held + t.supervisor.live + t.disposed :=
    same ▸ books.custody torn nothing
  have kills : t.givenUp limit =
      t.killed + t.condemned + ending.kernel.traffic.stops.bind StopPhase.condemns :=
    same ▸ books.kills torn
  refine ⟨first, second, third, by simp, stopping, halted, ended, stops, custody, kills,
    fun calm => ?_⟩
  have still : last.kernel.supervisor.Halted := by
    have played : stopped.play (second ++ .tearDown :: third) = last := by
      rw [play_append, play_cons]
    exact played ▸ halted_play ((fresh.play first).step .tearDown) halted _ calm
  have still : t.supervisor.Halted := congrArg Traffic.supervisor same ▸ still
  refine ⟨still, fun landed => ?_⟩
  obtain ⟨held, condemned, live⟩ := Traffic.nothing_held still landed stops
  refine ⟨?_, fun whole => ?_⟩
  · rw [custody, held, live, zero_add, zero_add]
  · rw [kills, condemned, whole, Multiset.zero_bind, add_zero, add_zero]

/-- The kernel is asked to exit, and its channels are closed. -/
def channelsClose : List (Motion Script) :=
  [.happens (.move .raise), .tearDown] ++
    [.replies .shell, .replies .control, .broadcasts].flatMap fun o =>
      [.happens (.notice o), .happens (.turn o)]

/-- A running kernel is torn down. -/
def stoppedRunning : List (Motion Script) :=
  toolingStarts ++ channelsClose ++ List.replicate 4 .tearDown

/-- The session of a running kernel is asked to close, and no stop goes on. -/
theorem running_kernel_torn_down :
    let t := (narrow.play stoppedRunning).kernel.traffic
    (narrow.play stoppedRunning).teardown = .gone ∧ t.stops = 0 ∧
      t.started = t.held + t.supervisor.live + t.disposed ∧ t.disposed = {1} := by
  intro t
  have gone : (narrow.play stoppedRunning).teardown = .gone := by decide +kernel
  have disposed : t.disposed = {1} := by decide +kernel
  have left (x : Deployment Script) (opening : narrow = x)
      (gone : (x.play stoppedRunning).teardown = .gone) :
      let t := (x.play stoppedRunning).kernel.traffic
      t.stops = 0 ∧ t.started = t.held + t.supervisor.live + t.disposed := by
    rw [narrow] at opening
    subst opening
    obtain ⟨_, _, _, _, _, _, _, stops, custody, _⟩ :=
      torn_down_but_for_flights _ _ _ _ _ _ stoppedRunning gone
    exact ⟨stops, custody⟩
  obtain ⟨stops, custody⟩ := left narrow rfl gone
  exact ⟨gone, stops, custody, disposed⟩

/-- A restart that was called for before is on its way when the kernel is torn down. -/
def restartedMeanwhile : List (Motion Script) :=
  .happens (.move (.restart 0)) :: goes 1 0 ++ channelsClose ++ List.replicate 2 .tearDown ++
    goes 7 1 ++ [.tearDown]

/-- A restart that is on its way moves the lifecycle after the stop. The kernel has been torn down
and is running, with a session that nobody has asked to close. -/
theorem torn_down_running :
    let x := narrow.play restartedMeanwhile
    let t := x.kernel.traffic
    x.teardown = .gone ∧ x.kernel.supervisor.lifecycle = .running ∧
      x.kernel.supervisor.session = some 1 ∧ t.started = {1} ∧ t.disposed = 0 ∧ t.killed = 0 := by
  decide +kernel

end Deployment

end NotebookKernel
