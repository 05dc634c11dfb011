import NotebookKernel.Proofs.Conduct
import NotebookKernel.Proofs.Upkeep

/-!
# Kernels in operation

A connected kernel answers a message in one go, in the order that its clock gives. A deployment
takes the same steps one at a time, in any order. What a connected kernel goes through, if each of
its loops is free whenever a message arrives for it, is one of the things that a deployment may go
through.
-/

namespace NotebookKernel

/-! ## The clock -/

namespace Kernel

variable {σ : Type} {k j : Kernel σ}

/-- The clock lets only strands go on that are ready. -/
theorem isReady_of_canGo {s : Strand} (goes : k.canGo s = true) : k.isReady s = true := by
  unfold canGo at goes
  unfold isReady
  split
  · rename_i f next waits
    simpa only [waits] using goes
  · rfl

/-- When an exit takes place, the kernel is asked to exit. -/
theorem leave_asks {t : Nat} (due : t ∈ k.exits) (obedient : k.obedient = true) :
    (k.move (.leave t)).stopping = true := by
  simp [move, due, raise, stopping, obedient]

/-- Loops that do not have to end now did not have to before. -/
theorem play_unasked (orderly : k.Orderly) (moves : List (Move σ))
    (unasked : (k.play moves).stopping = false) : k.stopping = false := by
  have signals := Deployment.play_signals orderly moves
  have obedient := play_obedient orderly moves
  simp only [stopping, obedient, Bool.and_eq_false_iff, decide_eq_false_iff_not] at unasked ⊢
  refine unasked.imp_right fun none => ?_
  omega

theorem run_unasked (orderly : k.Orderly) {limit : Option Nat} {wanted : Kernel σ → Bool}
    {fuel : Nat} (unasked : (run limit wanted fuel k).stopping = false) : k.stopping = false := by
  obtain ⟨moves, played, _⟩ := run_plays limit wanted fuel k
  exact play_unasked orderly moves (played ▸ unasked)

theorem feeds_enqueue (k : Kernel σ) (c : RequestChannel) (r : Request) :
    k.Feeds (k.enqueue c r) := by
  unfold enqueue
  split
  · exact .refl k
  · exact feeds_withLane ..

theorem feeds_submit (k : Kernel σ) (c : RequestChannel) (r : Request) :
    k.Feeds (k.submit c r).2 := by
  unfold submit
  split
  · exact .refl k
  · exact (k.feeds_enqueue c r).trans (feeds_feed _)

/-- A loop has nothing to do while its lane is empty. -/
theorem feedLane_eq {c : RequestChannel} (empty : (k.lane c).queue = [])
    (unasked : k.stopping = false) : k.feedLane c = k := by
  have going : (k.obedient && 0 < k.signals) = false := unasked
  unfold feedLane
  simp only [going, empty, Bool.false_eq_true, if_false, ite_self]

/-- A request that arrives at a loop with nothing to do is begun at once. -/
theorem submit_eq {c : RequestChannel} (empty : ∀ d, (k.lane d).queue = [])
    (idle : k.isIdle c = true) (unasked : k.stopping = false) (r : Request) :
    (k.submit c r).2 = (k.enqueue c r).feedLane c := by
  obtain ⟨free, going⟩ := isIdle_iff.mp idle
  have enqueued : (k.enqueue c r).stopping = false := (k.feeds_enqueue c r).stopping.trans unasked
  have lane := Deployment.begin_lane r (empty c) free going unasked
  rw [submit, if_neg (by simp [going])]
  cases c with
  | shell =>
    have other : ((k.enqueue .shell r).lane .control).queue = [] := by
      rw [enqueue_lane k .shell .control r (by simp)]
      exact empty .control
    simp only [feed, feedLane_eq other enqueued]
  | control =>
    have other : (((k.enqueue .control r).feedLane .control).lane .shell).queue = [] := by
      rw [lane]
      exact empty .shell
    exact feedLane_eq other ((feeds_feedLane _ .control).stopping.trans enqueued)

end Kernel

/-- As long as no loop has ended, no queue is closed. -/
theorem Exchange.hangUp_eq {σ : Type} {e : Exchange σ}
    (going : ∀ c, (e.node.kernel.lane c).ended = false) : e.hangUp = e := by
  simp [hangUp, hangUpOf, going]

namespace ConnectedKernel

variable {σ : Type} {n : ConnectedKernel σ}

/-- The kernel has gone on, and what it has emitted has been sent. -/
def goneOn (n : ConnectedKernel σ) (k : Kernel σ) (es : List Emission) : ConnectedKernel σ :=
  { es.foldl emit n with kernel := k }

@[simp] theorem goneOn_kernel (k : Kernel σ) (es : List Emission) : (n.goneOn k es).kernel = k :=
  rfl

theorem goneOn_goneOn (n : ConnectedKernel σ) (k j : Kernel σ) (es es' : List Emission) :
    (n.goneOn k es).goneOn j es' = n.goneOn j (es ++ es') := by
  simp only [goneOn, foldl_emit_kernel, List.foldl_append]

/-- Nothing waits anywhere, and no loop has ended. -/
structure Serves (n : ConnectedKernel σ) : Prop where
  clear : n.Clear
  orderly : n.kernel.Orderly
  obedient : n.kernel.obedient = true
  empty : ∀ c, (n.kernel.lane c).queue = []
  going : ∀ c, (n.kernel.lane c).ended = false

/-- Whenever a message arrives, the loop for it has nothing to do. -/
def attends (n : ConnectedKernel σ) : List (RequestChannel × List Bytes) → Bool
  | [] => true
  | (c, frames) :: rest => n.kernel.isIdle c && (n.receive c frames).attends rest

/-- A request is served, and what was said is sent. -/
theorem Clear.receive_goneOn (clear : n.Clear) {c : RequestChannel} {frames : List Bytes}
    {r : Request} (read : Router.decode n.signer frames = .ok r) {es : List Emission}
    (emitted : (n.kernel.submit c r).2.settle.emitted = n.kernel.emitted ++ es) :
    n.receive c frames = n.goneOn (n.kernel.submit c r).2.settle es :=
  (clear.receive_read read).trans (pump_eq emitted)

theorem Clear.receive_keeps (clear : n.Clear) (orderly : n.kernel.Orderly) (c : RequestChannel)
    (frames : List Bytes) :
    let m := n.receive c frames
    m.Clear ∧ m.kernel.Orderly ∧ (m.kernel.stopping = false → n.kernel.stopping = false) := by
  intro m
  cases read : Router.decode n.signer frames with
  | error e =>
    have same : m = n := clear.receive_unread read
    rw [same]
    exact ⟨clear, orderly, id⟩
  | ok r =>
    have fed := n.kernel.feeds_submit c r
    have ready : (n.kernel.submit c r).2.Orderly := fed.grows.orderly orderly
    obtain ⟨moves, played, _⟩ := (n.kernel.submit c r).2.settle_plays
    have same : m = n.goneOn ((n.kernel.submit c r).2.play moves)
        ((n.kernel.submit c r).2.emissions moves) := by
      rw [← played]
      refine clear.receive_goneOn read ?_
      rw [played, Kernel.play_emitted, fed.emitted]
    rw [same]
    refine ⟨(clear.emits_all _).1.with_kernel _, Kernel.play_orderly ready moves, ?_⟩
    intro unasked
    exact fed.stopping.symm.trans (Kernel.play_unasked ready moves unasked)

/-- Nobody has asked the kernel to exit if nobody has at the end. -/
theorem Clear.receiveAll_unasked (clear : n.Clear) (orderly : n.kernel.Orderly)
    {arrived : List (RequestChannel × List Bytes)}
    (unasked : (n.receiveAll arrived).kernel.stopping = false) : n.kernel.stopping = false := by
  induction arrived generalizing n with
  | nil => exact unasked
  | cons a rest ih =>
    obtain ⟨clear', orderly', before⟩ := clear.receive_keeps orderly a.1 a.2
    exact before (ih clear' orderly' unasked)

namespace Serves

theorem lane_tidy (serves : n.Serves) (c : RequestChannel) : (n.kernel.lane c).Tidy := by
  refine ⟨serves.empty c, fun gone => ?_⟩
  rw [serves.going c] at gone
  cases gone

/-- The kernel makes a move, and something is sent. -/
theorem move (serves : n.Serves) {mv : Move σ} (inside : ∀ c m, mv ≠ .arrive c m)
    (unasked : n.kernel.stopping = false) (es : List Emission) :
    (n.goneOn (n.kernel.move mv) es).Serves := by
  have advances := n.kernel.move_advances inside
  constructor
  · exact (serves.clear.emits_all es).1.with_kernel _
  · exact Kernel.move_orderly serves.orderly mv
  · exact (Kernel.play_obedient serves.orderly [mv]).trans serves.obedient
  · exact fun c => ((advances c).tidy (serves.lane_tidy c)).empty
  · exact fun c => (advances c).unended unasked (serves.going c)

/-- A loop that has nothing to do begins a request. -/
theorem begins (serves : n.Serves) {c : RequestChannel} (idle : n.kernel.isIdle c = true)
    (unasked : n.kernel.stopping = false) (r : Request) :
    (n.goneOn ((n.kernel.enqueue c r).feedLane c) []).Serves := by
  have fed : n.kernel.Feeds ((n.kernel.enqueue c r).feedLane c) :=
    (n.kernel.feeds_enqueue c r).trans (Kernel.feeds_feedLane _ c)
  obtain ⟨free, going⟩ := Kernel.isIdle_iff.mp idle
  have lane := Deployment.begin_lane r (serves.empty c) free going unasked
  constructor
  · exact serves.clear.with_kernel _
  · exact fed.grows.orderly serves.orderly
  · exact fed.obedient.trans serves.obedient
  · intro d
    rw [goneOn_kernel, lane]
    split
    · rfl
    · exact serves.empty d
  · intro d
    rw [goneOn_kernel, lane]
    split
    · rfl
    · exact serves.going d

end Serves

end ConnectedKernel

namespace Deployment

variable {σ : Type} {x y z : Deployment σ} {m : Motion σ} {e : Exchange σ} {t : Teardown}
  {n : ConnectedKernel σ}

/-- The deployment can come to the other. -/
def Becomes (x y : Deployment σ) : Prop := ∃ ms, x.play ms = y

theorem Becomes.refl (x : Deployment σ) : x.Becomes x := ⟨[], rfl⟩

theorem Becomes.trans (first : x.Becomes y) (second : y.Becomes z) : x.Becomes z := by
  obtain ⟨before, rfl⟩ := first
  obtain ⟨after, rfl⟩ := second
  exact ⟨before ++ after, play_append ..⟩

theorem Becomes.of_leads (h : x.Leads m e t)
    (going : ∀ c, (e.node.kernel.lane c).ended = false) : x.Becomes ⟨e, t⟩ := by
  refine ⟨[m], ?_⟩
  rw [play_cons, play_nil, step_eq h, Exchange.hangUp_eq going]

/-- The kernel serves, and nobody has begun to tear it down. -/
def serving (n : ConnectedKernel σ) : Deployment σ := ⟨⟨n, false, false⟩, .awaiting⟩

/-- The kernel makes a move, and what it sends is sent by the pump. -/
theorem becomes_move (clear : n.Clear) {mv : Move σ}
    (admitted : (serving n).admits (.move mv) = true)
    (going : ∀ c, ((n.kernel.move mv).lane c).ended = false) :
    (serving n).Becomes
      (serving (n.goneOn (n.kernel.move mv) (n.kernel.emission? mv).toList)) := by
  cases sends : n.kernel.emission? mv with
  | none =>
    refine .of_leads (.moves (n := n) admitted ?_) going
    simp [serving, sends, Exchange.give?]
  | some e =>
    obtain ⟨⟨n', offered, turned⟩, _⟩ := clear.emits e
    have moved : (serving n).Leads (.happens (.move mv))
        (((serving n).exchange).withNode { n' with kernel := n.kernel.move mv }) .awaiting := by
      refine .moves admitted ?_
      simp [serving, sends, Exchange.give?, offered]
    refine (Becomes.of_leads moved going).trans (.of_leads (.sends (o := e.outlet) ?_) going)
    simp [serving, ConnectedKernel.turn_kernel, turned, ConnectedKernel.goneOn]

/-- The kernel can come to the other, and what it then has emitted has been sent. -/
def ServesTo (n : ConnectedKernel σ) (k : Kernel σ) : Prop :=
  ∃ es, k.emitted = n.kernel.emitted ++ es ∧ (n.goneOn k es).Serves ∧
    (serving n).Becomes (serving (n.goneOn k es))

namespace ServesTo

variable {k j : Kernel σ}

theorem refl (serves : n.Serves) : ServesTo n n.kernel :=
  ⟨[], (List.append_nil _).symm, serves, .refl _⟩

theorem trans (first : ServesTo n k)
    (second : ∀ m : ConnectedKernel σ, m.Serves → m.kernel = k → ServesTo m j) :
    ServesTo n j := by
  obtain ⟨es, emitted, serves, became⟩ := first
  obtain ⟨es', emitted', serves', became'⟩ := second _ serves rfl
  rw [ConnectedKernel.goneOn_goneOn] at serves' became'
  refine ⟨es ++ es', ?_, serves', became.trans became'⟩
  rw [emitted', ConnectedKernel.goneOn_kernel, emitted, List.append_assoc]

theorem move (serves : n.Serves) (mv : Move σ) (inside : ∀ c m, mv ≠ .arrive c m)
    (admitted : (serving n).admits (.move mv) = true)
    (unasked : (n.kernel.move mv).stopping = false) : ServesTo n (n.kernel.move mv) := by
  have before : n.kernel.stopping = false :=
    Kernel.play_unasked serves.orderly [mv] unasked
  have moved := serves.move inside before (n.kernel.emission? mv).toList
  exact ⟨_, n.kernel.move_emitted mv, moved, becomes_move serves.clear admitted moved.going⟩

/-- What the clock does until the kernel is asked to exit, a deployment may do. -/
theorem run {limit : Option Nat} {wanted : Kernel σ → Bool} {fuel : Nat} (serves : n.Serves)
    (unasked : (Kernel.run limit wanted fuel n.kernel).stopping = false) :
    ServesTo n (Kernel.run limit wanted fuel n.kernel) := by
  induction fuel generalizing n with
  | zero => exact refl serves
  | succ fuel ih =>
    rw [Kernel.run] at unasked ⊢
    by_cases more : wanted n.kernel = true
    swap
    · simpa only [more, Bool.false_eq_true, if_false] using refl serves
    cases stepped : n.kernel.stepUntil limit with
    | none => simpa only [more, if_true, stepped] using refl serves
    | some j =>
      simp only [more, if_true, stepped] at unasked ⊢
      have later (m : ConnectedKernel σ) (serves : m.Serves) (same : m.kernel = j) :
          ServesTo m (Kernel.run limit wanted fuel j) := by
        subst same
        exact ih serves unasked
      rcases Kernel.stepUntil_cases stepped with
        ⟨i, s, found, goes, rfl⟩ | ⟨t, due, rfl⟩ | ⟨t, rfl⟩
      · have orderly := Kernel.move_orderly serves.orderly (.go i)
        refine trans (move serves (.go i) (by simp) ?_ (Kernel.run_unasked orderly unasked)) later
        simp [admits, serving, found, Kernel.isReady_of_canGo goes]
      · -- an exit asks the loops to end
        have orderly := Kernel.move_orderly serves.orderly (.leave t)
        have looked := Kernel.play_orderly orderly [.look .control, .look .shell]
        have unasked := Kernel.play_unasked orderly _ (Kernel.run_unasked looked unasked)
        cases unasked.symm.trans (Kernel.leave_asks due serves.obedient)
      · have orderly := Kernel.move_orderly serves.orderly (.wait t)
        exact trans (move serves (.wait t) (by simp) rfl (Kernel.run_unasked orderly unasked)) later

end ServesTo

/-- A request arrives, and its loop begins with it. -/
theorem becomes_begin (serves : n.Serves) {c : RequestChannel} {frames : List Bytes} {r : Request}
    (idle : n.kernel.isIdle c = true) (unasked : n.kernel.stopping = false)
    (read : Router.decode n.signer frames = .ok r) :
    (serving n).Becomes (serving (n.goneOn ((n.kernel.enqueue c r).feedLane c) [])) := by
  obtain ⟨q, q', received, handed, took⟩ := (serves.clear.routers c).delivers read
  have going (r : Router) (d : RequestChannel) :
      ((n.withRouter c r).kernel.lane d).ended = false := by
    rw [ConnectedKernel.withRouter_kernel]
    exact serves.going d
  have first : (serving n).Becomes (serving (n.withRouter c q)) :=
    .of_leads (.receives received) (going q)
  have second : (serving (n.withRouter c q)).Becomes (serving (n.withRouter c q')) := by
    have hands : (serving (n.withRouter c q)).Leads (.happens (.hand c))
        ⟨(n.withRouter c q).withRouter c q', false, false⟩ .awaiting :=
      .hands (by simpa [serving] using handed)
    rw [ConnectedKernel.withRouter_withRouter] at hands
    exact .of_leads hands (going q')
  have third : (serving (n.withRouter c q')).Becomes
      (serving (n.goneOn ((n.kernel.enqueue c r).feedLane c) [])) := by
    have begins : (serving (n.withRouter c q')).Leads (.poll c)
        ⟨{ (n.withRouter c q').withRouter c (n.router c) with
            kernel := ((n.withRouter c q').kernel.enqueue c r).feedLane c },
          false, false⟩ .awaiting :=
      .begins (by simpa [serving] using idle) (by simpa [serving] using unasked)
        (by simpa [serving] using took)
    rw [ConnectedKernel.withRouter_withRouter, ConnectedKernel.withRouter_self,
      ConnectedKernel.withRouter_kernel] at begins
    exact .of_leads begins (serves.begins idle unasked r).going
  exact (first.trans second).trans third

/-- A message arrives, and is answered. -/
theorem becomes_receive (serves : n.Serves) {c : RequestChannel} {frames : List Bytes}
    (idle : n.kernel.isIdle c = true)
    (unasked : (n.receive c frames).kernel.stopping = false) :
    (n.receive c frames).Serves ∧ (serving n).Becomes (serving (n.receive c frames)) := by
  have before := (serves.clear.receive_keeps serves.orderly c frames).2.2 unasked
  cases read : Router.decode n.signer frames with
  | error e =>
    rw [serves.clear.receive_unread read]
    exact ⟨serves, .refl _⟩
  | ok r =>
    let k := (n.kernel.enqueue c r).feedLane c
    have begun : (n.kernel.submit c r).2 = k :=
      Kernel.submit_eq serves.empty idle before r
    have quiet : k.emitted = n.kernel.emitted := begun ▸ (n.kernel.feeds_submit c r).emitted
    have answered : (n.receive c frames).kernel = k.settle := by
      rw [serves.clear.receive_read read, begun, ConnectedKernel.pump,
        ConnectedKernel.foldl_emit_kernel]
    rw [answered] at unasked
    obtain ⟨es, emitted, serves', became⟩ := ServesTo.run (serves.begins idle before r) unasked
    have same : n.receive c frames = n.goneOn k.settle es := by
      rw [← begun]
      refine serves.clear.receive_goneOn read ?_
      rw [begun, ← quiet]
      exact emitted
    rw [ConnectedKernel.goneOn_goneOn] at serves' became
    rw [same]
    exact ⟨serves', (becomes_begin serves idle before read).trans became⟩

theorem becomes_receiveAll (serves : n.Serves) (arrived : List (RequestChannel × List Bytes))
    (attended : n.attends arrived = true)
    (unasked : (n.receiveAll arrived).kernel.stopping = false) :
    (serving n).Becomes (serving (n.receiveAll arrived)) := by
  induction arrived generalizing n with
  | nil => exact .refl _
  | cons a rest ih =>
    obtain ⟨c, frames⟩ := a
    simp only [ConnectedKernel.attends, Bool.and_eq_true] at attended
    obtain ⟨clear, orderly, _⟩ := serves.clear.receive_keeps serves.orderly c frames
    obtain ⟨serves', became⟩ :=
      becomes_receive serves attended.1 (clear.receiveAll_unasked orderly unasked)
    exact became.trans (ih serves' attended.2 unasked)

end Deployment

namespace ConnectedKernel

variable {σ : Type}

/-- A connected kernel that has been started is sent messages, each when its loop has nothing to
do. Until it is asked to exit, what it goes through is what a deployment may go through. -/
theorem started_deploys (config : KernelConfig) (connection : ConnectionInfo) (used : InUse)
    (backend : Backend σ) (tooling : σ) (stamps : Nat → Stamp) (n : ConnectedKernel σ)
    (started : (start config connection used backend tooling stamps).1 = .ok n)
    (room : 0 < config.capacity) (arrived : List (RequestChannel × List Bytes))
    (attended : n.attends arrived = true)
    (unasked : (n.receiveAll arrived).kernel.stopping = false) :
    ∃ ms, (Deployment.opened config backend tooling n.signer n.endpoints stamps).play ms =
      ⟨⟨n.receiveAll arrived, false, false⟩, .awaiting⟩ := by
  let x := Deployment.opened config backend tooling n.signer n.endpoints stamps
  have fresh : x.node.Serves := by
    constructor
    · exact opened_clear room
    · exact Kernel.new_orderly config backend tooling true
    · rfl
    · intro c
      cases c <;> rfl
    · intro c
      cases c <;> rfl
  let begun := x.kernel.restart 0
  have orderly : begun.Orderly := Kernel.move_orderly fresh.orderly (.restart 0)
  obtain ⟨moves, settled, silent⟩ := begun.settle_plays
  have same : n = x.node.goneOn begun.settle [] := start_eq started
  have early : begun.settle.stopping = false := by
    have clear : n.Clear := same ▸ fresh.clear.with_kernel _
    have tidy : n.kernel.Orderly := by
      rw [same, goneOn_kernel, settled]
      exact Kernel.play_orderly orderly moves
    have early := clear.receiveAll_unasked tidy unasked
    rwa [same] at early
  -- nothing is sent before the first message arrives
  have nothing : begun.settle.emitted = [] :=
    settled ▸ Kernel.unasked_silent config backend tooling true (.restart 0 :: moves) silent
  have restarted : Deployment.ServesTo x.node begun :=
    .move fresh (.restart 0) (by simp) rfl (Kernel.run_unasked orderly early)
  obtain ⟨es, emitted, serves, became⟩ : Deployment.ServesTo x.node begun.settle := by
    refine restarted.trans fun m serves same => ?_
    rw [← same] at early ⊢
    exact .run serves early
  obtain rfl : es = [] := by
    rw [nothing] at emitted
    exact (List.append_eq_nil_iff.mp emitted.symm).2
  rw [← same] at serves became
  exact became.trans (Deployment.becomes_receiveAll serves arrived attended unasked)

end ConnectedKernel

end NotebookKernel
