import NotebookKernel.Proofs.Clogging

/-!
# Closing the channels

Whoever closes the channels waits for their routers. When no channel is clogged, the kernel is torn
down without any request loop going on with its request. When one is clogged, the closing lasts at
least as long as the request that the loop is in the middle of.
-/

namespace NotebookKernel

/-! ## What is left to be done -/

def PumpPhase.rank : PumpPhase → Nat
  | serving => 2
  | draining => 1
  | closed => 0

/-- How many steps a pump takes to close its socket, if nothing more is accepted. -/
def Publisher.backlog (p : Publisher) : Nat := p.outbound.items.length + p.phase.rank

theorem Publisher.turn_backlog {p q : Publisher} (turn : p.turn? = some q) :
    q.backlog < p.backlog := by
  rcases turn_cases turn with ⟨_, m, rest, waiting, rfl⟩ | ⟨draining, _, rfl⟩
  · simp [backlog, waiting]
  · simp [backlog, draining, PumpPhase.rank]

theorem Publisher.drain_backlog {p q : Publisher} (drain : p.drain? = some q) :
    q.backlog < p.backlog := by
  obtain ⟨serving, rfl⟩ := drain_cases drain
  simp [backlog, serving, Queue.close, PumpPhase.rank]

/-- A router stays stuck whatever its other side does. -/
theorem Router.isStuck_replies {r : Router} (p : Publisher) :
    { r with replies := p }.IsStuck ↔ r.IsStuck := by
  unfold IsStuck hand?
  cases r.held <;> simp

/-- How many steps a stop takes at most. -/
def StopPhase.rank : StopPhase → Nat
  | entering => 3
  | retiring (.disposing _) => 2
  | retiring (.killing _) => 1
  | ended => 0
  | crashed _ => 0

namespace Kernel

variable {σ : Type} {k : Kernel σ} {i : Nat} {s : Strand}

theorem turnStop_rank (k : Kernel σ) {p : StopPhase} (going : p.outcome? = none) :
    (k.turnStop p).1.rank < p.rank := by
  cases p with
  | entering =>
    simp only [turnStop, StopPhase.turn]
    split <;> simp [StopPhase.rank]
  | retiring old =>
    cases old with
    | disposing c =>
      simp only [turnStop, StopPhase.turn, Retirement.turn]
      split <;> simp [StopPhase.rank]
    | killing c => simp [turnStop, StopPhase.turn, Retirement.turn, StopPhase.rank]
  | ended => cases going
  | crashed m => cases going

/-- When a session that was taken away is asked to close, one strand less keeps the loops from
being ended. -/
theorem move_closing (found : k.strands[i]? = some s) (closing : s.isClosing = true) :
    (k.move (.go i)).strands.countP Strand.isClosing < k.strands.countP Strand.isClosing := by
  obtain ⟨wake, work, next, going, nothing⟩ :=
    k.stepped_closing (Bool.and_eq_true_iff.mp closing).2
  obtain ⟨bound, rfl⟩ := List.getElem?_eq_some_iff.mp found
  have gone : (⟨wake, work, k.strands[i].loop⟩ : Strand).isClosing = false := by
    simp [Strand.isClosing, going]
  have counted : 0 < k.strands.countP Strand.isClosing :=
    List.countP_pos_iff.mpr ⟨_, List.getElem_mem bound, closing⟩
  rw [move_go_strands found, next, nothing, List.append_nil, List.countP_set bound, if_pos closing,
    gone, if_neg (by simp)]
  omega

theorem not_interruptible (blocked : k.isInterruptible = false) :
    ∃ (i : Nat) (s : Strand), k.strands[i]? = some s ∧ s.isClosing = true := by
  simp only [isInterruptible, Bool.not_eq_eq_eq_not, Bool.not_false, List.any_eq_true] at blocked
  obtain ⟨s, member, closing⟩ := blocked
  obtain ⟨i, found⟩ := List.getElem?_of_mem member
  exact ⟨i, s, found, closing⟩

end Kernel

namespace Exchange

variable {σ : Type} {e e' : Exchange σ} {c : RequestChannel}

/-- How much there is still to do on a channel before it is closed. -/
def chores (e : Exchange σ) (c : RequestChannel) : Nat :=
  (e.node.kernel.isIdle c).toNat + (e.node.router c).held.toList.length +
    (e.node.outlet (.replies c)).backlog

/-- How much there is still to do before the channels are closed. -/
def backlog (e : Exchange σ) : Nat :=
  e.chores .shell + e.chores .control + (e.node.outlet .broadcasts).backlog

@[simp] theorem hangUp_backlog (e : Exchange σ) : e.hangUp.backlog = e.backlog := by
  have held (c : RequestChannel) : (e.hangUp.node.router c).held = (e.node.router c).held := by
    rw [hangUp_router]
    split <;> rfl
  simp only [backlog, chores, hangUp_kernel, hangUp_outlet, held]

/-- What is left to do gets less if it gets less somewhere, and more nowhere. -/
theorem backlog_lt (idle : ∀ c, e'.node.kernel.isIdle c = true → e.node.kernel.isIdle c = true)
    (held : ∀ c, (e'.node.router c).held.toList.length ≤ (e.node.router c).held.toList.length)
    (outlets : ∀ o, (e'.node.outlet o).backlog ≤ (e.node.outlet o).backlog)
    (less : (∃ c, e.node.kernel.isIdle c = true ∧ e'.node.kernel.isIdle c = false) ∨
      (∃ c, (e'.node.router c).held.toList.length < (e.node.router c).held.toList.length) ∨
      ∃ o, (e'.node.outlet o).backlog < (e.node.outlet o).backlog) : e'.backlog < e.backlog := by
  have idle (c : RequestChannel) :
      (e'.node.kernel.isIdle c).toNat ≤ (e.node.kernel.isIdle c).toNat := by
    cases still : e'.node.kernel.isIdle c with
    | false => exact Nat.zero_le _
    | true => rw [idle c still]
  have broadcasts := outlets .broadcasts
  have chores (c : RequestChannel) : e'.chores c ≤ e.chores c :=
    Nat.add_le_add (Nat.add_le_add (idle c) (held c)) (outlets (.replies c))
  have fewer (h : (∃ c, e'.chores c < e.chores c) ∨
      (e'.node.outlet .broadcasts).backlog < (e.node.outlet .broadcasts).backlog) :
      e'.backlog < e.backlog := by
    have shell := chores .shell
    have control := chores .control
    unfold backlog
    rcases h with ⟨_ | _, less⟩ | less <;> omega
  have there (c : RequestChannel)
      (h : (e'.node.kernel.isIdle c).toNat < (e.node.kernel.isIdle c).toNat ∨
        (e'.node.router c).held.toList.length < (e.node.router c).held.toList.length ∨
        (e'.node.outlet (.replies c)).backlog < (e.node.outlet (.replies c)).backlog) :
      e'.backlog < e.backlog := by
    refine fewer (Or.inl ⟨c, ?_⟩)
    have idle := idle c
    have held := held c
    have outlet := outlets (.replies c)
    unfold Exchange.chores
    omega
  rcases less with ⟨c, before, after⟩ | ⟨c, less⟩ | ⟨o, less⟩
  · exact there c (Or.inl (by simp [before, after]))
  · exact there c (Or.inr (Or.inl less))
  · cases o with
    | replies c => exact there c (Or.inr (Or.inr less))
    | broadcasts => exact fewer (Or.inr less)

end Exchange

/-- The tooling is called to compile a cell. -/
def Event.isCompile : Event → Bool
  | .called (.compile _ _) _ => true
  | _ => false

theorem Event.isCompile_iff {event : Event} : event.isCompile = true ↔
    ∃ session cell answer, event = .called (.compile session cell) answer := by
  constructor
  · intro compiles
    unfold isCompile at compiles
    split at compiles
    · exact ⟨_, _, _, rfl⟩
    · cases compiles
  · rintro ⟨session, cell, answer, rfl⟩
    rfl

namespace Deployment

variable {σ : Type} {x y : Deployment σ} {m : Motion σ} {e : Exchange σ} {config : KernelConfig}
  {c : RequestChannel}

/-- The channel's request loop does not go on with its request while these things happen. -/
def Rests (x : Deployment σ) (c : RequestChannel) : List (Motion σ) → Prop
  | [] => True
  | m :: ms => ¬x.LetsGo c m ∧ (x.step m).Rests c ms

theorem Rests.append {first second : List (Motion σ)} (rests : x.Rests c first)
    (further : (x.play first).Rests c second) : x.Rests c (first ++ second) := by
  induction first generalizing x with
  | nil => exact further
  | cons m rest ih => exact ⟨rests.1, ih rests.2 further⟩

/-- The kernel is torn down, or the stop crashed. -/
def HasEnded (x : Deployment σ) : Prop :=
  x.teardown = .gone ∨ ∃ m, x.teardown = .stopping (.crashed m)

/-! ## Until the channels are closed -/

/-- A step towards closing the channels: less is left to do, and no channel gets clogged. -/
structure Nears (x y : Deployment σ) : Prop where
  closing : y.teardown = .closing
  clogged : ∀ c, y.Clogged c → x.Clogged c
  less : y.exchange.backlog < x.exchange.backlog

theorem Nears.of_leads {t : Teardown} (h : x.Leads m e t) (closing : t = .closing)
    (clogged : ∀ c, (e.node.router c).IsStuck → (e.node.kernel.lane c).busy = true → x.Clogged c)
    (less : e.backlog < x.exchange.backlog) : x.Nears (x.step m) := by
  rw [step_eq h]
  refine ⟨closing, fun c blocked => ?_, by simpa using less⟩
  obtain ⟨stuck, busy⟩ := blocked
  rw [mk_node, Exchange.hangUp_router] at stuck
  rw [mk_kernel, Exchange.hangUp_kernel] at busy
  split at stuck
  · cases stuck.full.1
  · exact clogged c stuck busy

theorem Regular.stopping (regular : x.Regular config) (begun : x.teardown ≠ .awaiting) :
    x.kernel.stopping = true := by
  simp [Kernel.stopping, regular.obedient, (regular.asked begun).1]

/-- A loop that has to end has nothing more to do with any request. -/
theorem end_lane {k : Kernel σ} (idle : k.isIdle c = true) (stopping : k.stopping = true)
    (d : RequestChannel) :
    (k.feedLane c).lane d = if d = c then (k.lane c).close else k.lane d := by
  obtain ⟨busy, ended⟩ := Kernel.isIdle_iff.mp idle
  have going : (k.obedient && 0 < k.signals) = true := stopping
  simp only [Kernel.feedLane, busy, ended, going, Bool.or_self, Bool.false_eq_true, if_false,
    if_true]
  by_cases here : d = c
  · simp [here]
  · simp [here, Ne.symm here]

/-- A loop that does nothing ends. -/
theorem nears_of_idle (regular : x.Regular config) (closing : x.teardown = .closing)
    (idle : x.kernel.isIdle c = true) : x.Nears (x.step (.poll c)) := by
  have busy := (Kernel.isIdle_iff.mp idle).1
  have stopping := regular.stopping (by simp [closing])
  have lane := end_lane idle stopping
  refine .of_leads (.ends idle stopping) closing (fun d stuck working => ?_) ?_
  · rw [Exchange.withKernel_router] at stuck
    rw [Exchange.withKernel_kernel, lane] at working
    split at working
    · cases busy.symm.trans working
    · exact ⟨stuck, working⟩
  · refine Exchange.backlog_lt (fun d still => ?_) (by simp) (by simp) (Or.inl ⟨c, idle, ?_⟩)
    · rw [Exchange.withKernel_kernel, Kernel.isIdle, lane] at still
      split at still
      · simp [Lane.close] at still
      · exact still
    · simp [Kernel.isIdle, lane, Lane.close]

/-- A request is handed on. -/
theorem nears_of_hand (closing : x.teardown = .closing) {r : Router}
    (handed : (x.node.router c).hand? = some r) : x.Nears (x.step (.happens (.hand c))) := by
  obtain ⟨replies, freed⟩ := Router.hand_cases handed
  have holding : ∃ q, (x.node.router c).held = some q := by
    rw [← Option.ne_none_iff_exists']
    intro free
    simp [Router.hand?, free] at handed
  obtain ⟨q, holding⟩ := holding
  refine .of_leads (.hands handed) closing (fun d stuck working => ?_) ?_
  · rw [Exchange.withRouter_router] at stuck
    rw [Exchange.withRouter_kernel] at working
    split at stuck
    · cases stuck.1.symm.trans (congrArg Option.isSome freed)
    · exact ⟨stuck, working⟩
  · refine Exchange.backlog_lt (by simp) (fun d => ?_) (fun o => ?_) (Or.inr (Or.inl ⟨c, ?_⟩))
    · rw [Exchange.withRouter_router]
      split <;> simp [freed]
    · exact (congrArg Publisher.backlog (ConnectedKernel.withRouter_outlet replies)).le
    · simp [freed, holding]

/-- A pump takes a step that brings it closer to closing its socket. -/
theorem nears_of_pump (closing : x.teardown = .closing) {o : Outlet} {n : ConnectedKernel σ}
    {p : Publisher} (leads : x.Leads m (x.exchange.withNode n) x.teardown)
    (puts : x.node.Puts n o p) (sends : x.node.Sends n o)
    (less : p.backlog < (x.node.outlet o).backlog) : x.Nears (x.step m) := by
  have kernel : n.kernel = x.kernel := sends.kernel
  refine .of_leads leads closing (fun d stuck working => ?_) ?_
  · obtain ⟨replies, same⟩ := sends.desks d
    rw [Exchange.withNode_node, same, Router.isStuck_replies] at stuck
    rw [Exchange.withNode_node, kernel] at working
    exact ⟨stuck, working⟩
  · refine Exchange.backlog_lt (fun d => ?_) (fun d => ?_) (fun o' => ?_)
      (Or.inr (Or.inr ⟨o, ?_⟩))
    · rw [Exchange.withNode_node, kernel]
      exact id
    · rw [Exchange.withNode_node, puts.held]
    · by_cases here : o' = o
      · subst here
        rw [Exchange.withNode_node, puts.there]
        exact less.le
      · rw [Exchange.withNode_node, puts.elsewhere o' here]
    · rw [Exchange.withNode_node, puts.there]
      exact less

theorem not_letsGo_of_mover (other : ∀ i, m ≠ .happens (.move (.go i))) (c : RequestChannel) :
    ¬x.LetsGo c m := by
  rintro ⟨i, s, goes, _⟩
  exact other i goes

/-- A pump that has not closed its socket takes a step, unless its router holds a request. -/
theorem exists_pump_step (regular : x.Regular config) (closing : x.teardown = .closing) {o : Outlet}
    (open_ : (x.node.outlet o).phase ≠ .closed)
    (free : ∀ c, o = .replies c → (x.node.router c).held = none) :
    ∃ m, (∀ c, ¬x.LetsGo c m) ∧ x.Nears (x.step m) := by
  cases phase : (x.node.outlet o).phase with
  | closed => exact absurd phase open_
  | serving =>
    have asked := (regular.asked (by simp [closing])).2
    obtain ⟨n, noticed⟩ : ∃ n, x.node.drain? o = some n := by
      cases o with
      | broadcasts =>
        have serving : x.node.iopub.phase = .serving := phase
        simp [ConnectedKernel.drain?, Publisher.drain?, serving]
      | replies c =>
        have serving : (x.node.router c).replies.phase = .serving := phase
        simp [ConnectedKernel.drain?, Router.drain?, free c rfl, Publisher.drain?, serving]
    obtain ⟨p, drained, puts⟩ := ConnectedKernel.drain_puts noticed
    refine ⟨.happens (.notice o), not_letsGo_of_mover (by simp), ?_⟩
    exact nears_of_pump closing (.notices (by simp [Exchange.mustClose, asked]) noticed) puts
      (ConnectedKernel.drain_sends noticed) (Publisher.drain_backlog drained)
  | draining =>
    have turns := Exchange.step_turn regular.settled phase
    refine ⟨.happens (.turn o), not_letsGo_of_mover (by simp), ?_⟩
    cases turned : x.node.turn? o with
    | some n =>
      obtain ⟨p, took, puts⟩ := ConnectedKernel.turn_puts turned
      exact nears_of_pump closing (.sends turned) puts (ConnectedKernel.turn_sends turned)
        (Publisher.turn_backlog took)
    | none =>
      have blocked : x.exchange.step? (.turn o) = none := Option.map_eq_none_iff.mpr turned
      rw [Exchange.step_none blocked] at turns
      exact absurd (Publisher.turn_backlog turns) (lt_irrefl _)

/-- As long as no channel is clogged, a channel that is not closed gets closer to it. -/
theorem exists_nearer (regular : x.Regular config) (closing : x.teardown = .closing)
    (unclogged : ∀ c, ¬x.Clogged c) (open_ : x.exchange.isClosed = false) :
    ∃ m, (∀ c, ¬x.LetsGo c m) ∧ x.Nears (x.step m) := by
  by_cases free : ∀ c, (x.node.router c).held = none
  · obtain ⟨o, open_⟩ : ∃ o, (x.node.outlet o).phase ≠ .closed := by
      by_contra closed
      push Not at closed
      rw [x.exchange.isClosed_iff.mpr closed] at open_
      cases open_
    exact exists_pump_step regular closing open_ fun c _ => free c
  · push Not at free
    obtain ⟨c, holding⟩ := free
    cases handed : (x.node.router c).hand? with
    | some r =>
      exact ⟨.happens (.hand c), not_letsGo_of_mover (by simp), nears_of_hand closing handed⟩
    | none =>
      have stuck : (x.node.router c).IsStuck := ⟨Option.isSome_iff_ne_none.mpr holding, handed⟩
      have busy : (x.kernel.lane c).busy = false := by
        by_contra busy
        exact unclogged c ⟨stuck, by simpa using busy⟩
      have going : (x.kernel.lane c).ended = false := (regular.desks c).closed ▸ stuck.full.1
      exact ⟨.poll c, not_letsGo_of_mover (by simp),
        nears_of_idle regular closing (Kernel.isIdle_iff.mpr ⟨busy, going⟩)⟩

/-- What can be reached while every request loop rests. -/
def Reaches (x y : Deployment σ) : Prop := ∃ more, (∀ c, x.Rests c more) ∧ x.play more = y

theorem Reaches.refl (x : Deployment σ) : x.Reaches x := ⟨[], fun _ => trivial, rfl⟩

theorem Reaches.trans {z : Deployment σ} (first : x.Reaches y) (second : y.Reaches z) :
    x.Reaches z := by
  obtain ⟨before, rests, rfl⟩ := first
  obtain ⟨after, rests', rfl⟩ := second
  exact ⟨before ++ after, fun c => (rests c).append (rests' c), play_append ..⟩

theorem Reaches.after (spares : ∀ c, ¬x.LetsGo c m) (rest : (x.step m).Reaches y) :
    x.Reaches y := by
  obtain ⟨more, rests, played⟩ := rest
  exact ⟨m :: more, fun c => ⟨spares c, rests c⟩, played⟩

/-- When no channel is clogged, all channels get closed while the request loops rest. -/
theorem reaches_stopping (regular : x.Regular config) (closing : x.teardown = .closing)
    (unclogged : ∀ c, ¬x.Clogged c) :
    ∃ y : Deployment σ, x.Reaches y ∧ y.teardown = .stopping .entering := by
  -- Every step towards closing the channels leaves less to do.
  induction left : x.exchange.backlog using Nat.strong_induction_on generalizing x with
  | h n ih =>
    cases shut : x.exchange.isClosed with
    | true =>
      refine ⟨_, .after (not_letsGo_of_mover (m := .tearDown) (by simp)) (.refl _), ?_⟩
      rw [step_eq (.stops closing shut)]
    | false =>
      obtain ⟨m, spares, nears⟩ := exists_nearer regular closing unclogged shut
      obtain ⟨y, reached, stopping⟩ := ih _ (left ▸ nears.less) (regular.step m) nears.closing
        (fun c clogged => unclogged c (nears.clogged c clogged)) rfl
      exact ⟨y, .after spares reached, stopping⟩

/-! ## Until the kernel is torn down -/

/-- How much there is still to do before the loops can be ended. -/
def remains (x : Deployment σ) (p : StopPhase) : Nat :=
  p.rank + x.kernel.strands.countP Strand.isClosing

/-- A session that was taken away can always be asked to close. -/
theorem goes_closing {i : Nat} {s : Strand} (found : x.kernel.strands[i]? = some s)
    (closing : s.work.isClosing = true) :
    x.Leads (.happens (.move (.go i)))
        (x.exchange.withNode { x.node with kernel := x.kernel.move (.go i) }) x.teardown ∧
      ∀ c, ¬x.LetsGo c (.happens (.move (.go i))) := by
  obtain ⟨old, next, asks⟩ := Work.isClosing_iff.mp closing
  refine ⟨.moves ?_ ?_, ?_⟩
  · simp [admits, found, Kernel.isReady, asks]
  · simp [Kernel.emission?, found, asks, Work.emission?, Exchange.give?]
  · rintro c ⟨j, s', goes, found', own, going⟩
    cases goes
    cases found.symm.trans found'
    cases closing.symm.trans going

/-- Once the channels are closed, the kernel is torn down while the request loops rest. -/
theorem reaches_end {p : StopPhase} (stopping : x.teardown = .stopping p) :
    ∃ y : Deployment σ, x.Reaches y ∧ y.HasEnded := by
  -- Either the stop takes a step, or a strand that must not be ended yet.
  induction left : x.remains p using Nat.strong_induction_on generalizing x p with
  | h n ih =>
    cases ended : p.outcome? with
    | none =>
      have turns : x.Leads .tearDown _ _ := .turns stopping ended
      have less : (x.step .tearDown).remains (x.kernel.turnStop p).1 < n := by
        rw [step_eq turns, ← left]
        simpa [remains, Kernel.turnStop_strands] using x.kernel.turnStop_rank ended
      obtain ⟨y, reached, done⟩ := ih _ less (congrArg teardown (step_eq turns)) rfl
      exact ⟨y, .after (not_letsGo_of_mover (by simp)) reached, done⟩
    | some o =>
      cases o with
      | crashed message =>
        refine ⟨x, .refl x, Or.inr ⟨message, ?_⟩⟩
        cases p <;> simp_all [StopPhase.outcome?]
      | stopped =>
        cases free : x.kernel.isInterruptible with
        | true =>
          refine ⟨_, .after (not_letsGo_of_mover (m := .tearDown) (by simp)) (.refl _), Or.inl ?_⟩
          rw [step_eq (.aborts stopping ended free)]
        | false =>
          -- A session that was taken away is asked to close first.
          obtain ⟨i, s, found, closing⟩ := Kernel.not_interruptible free
          obtain ⟨goes, spares⟩ := goes_closing found (Bool.and_eq_true_iff.mp closing).2
          have less : (x.step (.happens (.move (.go i)))).remains p < n := by
            rw [step_eq goes, ← left]
            simpa [remains] using Kernel.move_closing found closing
          obtain ⟨y, reached, done⟩ := ih _ less
            ((congrArg teardown (step_eq goes)).trans stopping) rfl
          exact ⟨y, .after spares reached, done⟩

/-! ## The channels close just if none is clogged -/

/-- A channel that is clogged stays clogged, and is not closed, until its loop goes on. -/
theorem Clogged.play (clogged : x.Clogged c) (regular : x.Regular config)
    (closing : x.teardown = .closing) (more : List (Motion σ)) (rests : x.Rests c more) :
    (x.play more).Clogged c ∧ (x.play more).teardown = .closing := by
  induction more generalizing x with
  | nil => exact ⟨clogged, closing⟩
  | cons m rest ih =>
    obtain ⟨stays, _, _, still⟩ := clogged.step regular rests.1
    exact ih stays (regular.step m) (still closing) rests.2

/-- While the channels are being closed, the kernel can be torn down without any request loop going
on with its request just if no channel is clogged. A clogged channel keeps the one who closes the
channels waiting, whatever else happens, until its loop goes on. -/
theorem closing_waits_if_clogged (config : KernelConfig) (backend : Backend σ) (tooling : σ)
    (signer : Signer) (endpoints : Endpoints) (stamps : Nat → Stamp) (ms : List (Motion σ))
    (closing :
      ((opened config backend tooling signer endpoints stamps).play ms).teardown = .closing) :
    let x := (opened config backend tooling signer endpoints stamps).play ms
    ((∃ more, (∀ c, x.Rests c more) ∧ (x.play more).HasEnded) ↔ ∀ c, ¬x.Clogged c) ∧
      ∀ c, x.Clogged c → ∀ more, x.Rests c more →
        (x.play more).Clogged c ∧ (x.play more).teardown = .closing := by
  intro x
  have regular : x.Regular config :=
    (opened_regular config backend tooling signer endpoints stamps).play ms
  have waits (c : RequestChannel) (clogged : x.Clogged c) (more : List (Motion σ))
      (rests : x.Rests c more) := clogged.play regular closing more rests
  refine ⟨⟨?_, fun unclogged => ?_⟩, waits⟩
  · rintro ⟨more, rests, ended⟩ c clogged
    have still := (waits c clogged more (rests c)).2
    rcases ended with gone | ⟨m, crashed⟩
    · rw [gone] at still
      cases still
    · rw [crashed] at still
      cases still
  · obtain ⟨y, closed, stopping⟩ := reaches_stopping regular closing unclogged
    obtain ⟨z, ends, ended⟩ := reaches_end stopping
    obtain ⟨more, rests, rfl⟩ := closed.trans ends
    exact ⟨more, rests, ended⟩

/-- A kernel that does nothing is torn down. -/
theorem idle_kernel_closes :
    let x := narrow.play [.happens (.move .raise), .tearDown]
    x.teardown = .closing ∧ ∃ more, (∀ c, x.Rests c more) ∧ (x.play more).HasEnded := by
  intro x
  have closing : x.teardown = .closing := by decide +kernel
  have free : ∀ c, (x.kernel.lane c).busy = false := by
    intro c
    cases c <;> decide +kernel
  have ends := (closing_waits_if_clogged _ Script.backend {} .unsigned _ _ _ closing).1.mpr
  refine ⟨closing, ends fun c clogged => ?_⟩
  cases (free c).symm.trans clogged.busy

/-! ## A cell that is compiled keeps the channels from closing -/

/-- A front-end asks to execute something. -/
def asksToExecute : Message := .asking "execute_request" [("code", .string "x")]

/-- The tooling is started. -/
def toolingStarts : List (Motion Script) :=
  .happens (.move (.restart 0)) :: goes 1 0 ++ goes 7 1 ++ goes 2 0

/-- The shell begins a request to execute something, and calls the tooling. -/
def shellCompiles : List (Motion Script) :=
  .poll .shell :: goes 2 0 ++ .happens (.turn .broadcasts) :: goes 2 0 ++
    .happens (.turn .broadcasts) :: goes 2 0

/-- Two more requests arrive while the tooling compiles, and then the kernel is asked to exit. -/
def askedWhileCompiling : List (Motion Script) :=
  toolingStarts ++ arriving .shell asksToExecute ++ shellCompiles ++
    arriving .shell asksToExecute ++ arriving .shell asksToExecute ++
    [.happens (.move .raise), .tearDown]

/-- The kernel has been asked to exit and its channels are being closed, but they are not closed
before the tooling has compiled the cell. -/
theorem closing_waits_for_compile :
    let x := narrow.play askedWhileCompiling
    0 < x.kernel.signals ∧ x.teardown = .closing ∧ x.Clogged .shell ∧
      (∃ session cell answer, .called (.compile session cell) answer ∈ x.kernel.journal) ∧
      x.kernel.verdicts = [] ∧
      ∀ more, x.Rests .shell more → (x.play more).teardown = .closing := by
  intro x
  let r : Request := ⟨[], asksToExecute.header, [], .execute "x"⟩
  have read : Router.decode .unsigned (asksToExecute.encode .unsigned) = .ok r :=
    Router.decode_asking
      ⟨⟨List.pairwise_singleton .., trivial, trivial⟩, ⟨trivial, trivial⟩, by decide⟩ rfl
  let first := ((narrow.play toolingStarts).holding .shell r).step (.happens (.hand .shell))
  let second := ((first.play shellCompiles).holding .shell r).step (.happens (.hand .shell))
  let third := (second.holding .shell r).step (.happens (.hand .shell))
  have reached : x = (third.step (.happens (.move .raise))).step .tearDown := by
    simp only [x, askedWhileCompiling, play_append, play_cons, play_nil]
    rw [play_arriving (x := narrow.play toolingStarts) read (by decide +kernel)
        (by decide +kernel),
      play_arriving (x := first.play shellCompiles) read (by decide +kernel) (by decide +kernel),
      play_arriving (x := second) read (by decide +kernel) (by decide +kernel)]
  have closing : x.teardown = .closing := by
    rw [reached]
    decide +kernel
  have clogged : x.Clogged .shell := by
    have held : (x.node.router .shell).held.isSome = true := by
      rw [reached]
      decide +kernel
    have full : (x.node.router .shell).hand?.isNone = true := by
      rw [reached]
      decide +kernel
    have busy : (x.kernel.lane .shell).busy = true := by
      rw [reached]
      decide +kernel
    exact ⟨⟨held, Option.isNone_iff_eq_none.mp full⟩, busy⟩
  have compiles : x.kernel.journal.any Event.isCompile = true := by
    rw [reached]
    decide +kernel
  have unserved : x.kernel.verdicts.isEmpty = true := by
    rw [reached]
    decide +kernel
  have regular : x.Regular { KernelConfig.standard with capacity := 1 } :=
    (opened_regular _ Script.backend {} .unsigned _ _).play _
  refine ⟨(regular.asked (by simp [closing])).1, closing, clogged, ?_,
    List.isEmpty_iff.mp unserved, fun more rests => (clogged.play regular closing more rests).2⟩
  obtain ⟨event, member, isCompile⟩ := List.any_eq_true.mp compiles
  obtain ⟨session, cell, answer, rfl⟩ := Event.isCompile_iff.mp isCompile
  exact ⟨session, cell, answer, member⟩

end Deployment

end NotebookKernel
