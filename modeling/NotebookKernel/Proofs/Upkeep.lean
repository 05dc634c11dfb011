import NotebookKernel.Proofs.Deployment

/-!
# What a deployment keeps

The loops of a deployment stay in order, its flights are regular, and its pumps and queues are
sound, whatever happens in whatever order. A loop has ended just when its queue is closed, and
before the kernel is asked to exit no channel closes.
-/

namespace NotebookKernel

/-! ## Lanes -/

/-- No request waits in the lane itself, and its loop ends only between two requests. -/
structure Lane.Tidy (l : Lane) : Prop where
  empty : l.queue = []
  idle : l.ended = true → l.busy = false

/-- A tidy lane stays tidy, and one whose loop has ended stays as it is. Loops end only when they
have to. -/
structure Lane.Advances (stopping : Bool) (l l' : Lane) : Prop where
  tidy : l.Tidy → l'.Tidy
  ended : l.ended = true → l.busy = false → l' = l
  unended : stopping = false → l.ended = false → l'.ended = false

namespace Lane.Advances

variable {stopping : Bool}

theorem refl (l : Lane) : l.Advances stopping l := ⟨id, fun _ _ => rfl, fun _ going => going⟩

theorem trans {l m n : Lane} (first : l.Advances stopping m) (second : m.Advances stopping n) :
    l.Advances stopping n where
  tidy before := second.tidy (first.tidy before)
  ended gone free := by
    have same := first.ended gone free
    subst same
    exact second.ended gone free
  unended unasked going := second.unended unasked (first.unended unasked going)

end Lane.Advances

namespace Kernel

variable {σ : Type}

theorem feedLane_advances (k : Kernel σ) (c d : RequestChannel) :
    (k.lane d).Advances k.stopping ((k.feedLane c).lane d) := by
  unfold feedLane
  split
  · exact .refl _
  · rename_i idle
    by_cases same : c = d
    · subst same
      obtain ⟨free, going⟩ : (k.lane c).busy = false ∧ (k.lane c).ended = false := by
        simpa using idle
      split
      · rename_i asked
        refine ⟨fun _ => ⟨?_, fun _ => ?_⟩, fun gone => ?_, fun unasked => ?_⟩
        · simp [Lane.close]
        · simp [Lane.close, free]
        · simp [going] at gone
        · cases unasked.symm.trans asked
      · split
        · exact .refl _
        · rename_i waiting
          refine ⟨fun tidy => ?_, fun gone => ?_, fun _ _ => by simp⟩
          · have empty := tidy.empty
            simp [waiting] at empty
          · simp [going] at gone
    · split
      · simpa [same] using Lane.Advances.refl (k.lane d)
      · split
        · exact .refl _
        · simpa [same] using Lane.Advances.refl (k.lane d)

theorem feed_advances (k : Kernel σ) (d : RequestChannel) :
    (k.lane d).Advances k.stopping (k.feed.lane d) := by
  have shell := feedLane_advances (k.feedLane .control) .shell d
  rw [(feeds_feedLane k .control).stopping] at shell
  exact (feedLane_advances k .control d).trans shell

theorem finish_advances (k : Kernel σ) (f : Finish) (d : RequestChannel) :
    (k.lane d).Advances k.stopping ((k.finish f).lane d) := by
  have released (j : Kernel σ) (c : RequestChannel) (r : Request) (v : Verdict) :
      (j.lane d).Advances j.stopping ((j.release c r v).lane d) := by
    let freed := (j.withLane c (j.lane c).release).note (.served c r v)
    have stopping : freed.stopping = j.stopping := (feeds_withLane j c _).stopping
    refine .trans ?_ (stopping ▸ feed_advances freed d)
    by_cases same : c = d
    · subst same
      refine ⟨fun tidy => ⟨?_, fun _ => ?_⟩, fun _ free => ?_, fun _ going => ?_⟩
      · simpa [freed, Lane.release] using tidy.empty
      · simp [freed, Lane.release]
      · simp [freed, Lane.release, ← free]
      · simpa [freed, Lane.release] using going
    · simpa [freed, same] using Lane.Advances.refl (j.lane d)
  cases f with
  | shell r s v =>
    have sessions : ({ k with session := s } : Kernel σ).lane d = k.lane d := by cases d <;> rfl
    exact sessions ▸ released { k with session := s } .shell r v
  | control r v => exact released k .control r v
  | call tag result =>
    rw [finish, note_lane]
    exact .refl _

theorem takeTurn_lane {φ : Type} (k : Kernel σ) (turn : Turn φ) (work : φ → Work)
    (d : RequestChannel) : (k.takeTurn turn work (none, k)).2.lane d = k.lane d := by
  cases turn <;> cases d <;> rfl

theorem proceed_advances (k : Kernel σ) (loop : Option RequestChannel) (w : Work)
    (d : RequestChannel) : (k.lane d).Advances k.stopping ((k.proceed loop w).2.lane d) := by
  have same {j : Kernel σ} (h : j.lane d = k.lane d) :
      (k.lane d).Advances k.stopping (j.lane d) := h ▸ .refl _
  cases w with
  | job j =>
    cases j with
    | done f => exact finish_advances k f d
    | act a next =>
      cases a with
      | restart =>
        refine same ?_
        simp only [proceed, act, atOnce]
        split <;> cases d <;> rfl
      | _ => exact same (by cases d <;> rfl)
  | joined f next =>
    refine same ?_
    simp only [proceed]
    split <;> rfl
  | stopping p next =>
    refine same ?_
    simp only [proceed]
    split
    · rfl
    · exact takeTurn_lane ..
  | flying f p =>
    refine same ?_
    simp only [proceed]
    split
    · cases d <;> rfl
    · exact takeTurn_lane ..

/-- A move of the kernel other than an arrival. -/
theorem move_advances (k : Kernel σ) {m : Move σ} (inside : ∀ c m', m ≠ .arrive c m')
    (d : RequestChannel) : (k.lane d).Advances k.stopping ((k.move m).lane d) := by
  have same {j : Kernel σ} (h : j.lane d = k.lane d) :
      (k.lane d).Advances k.stopping (j.lane d) := h ▸ .refl _
  cases m with
  | go i =>
    simp only [move]
    split
    · rename_i s _
      rw [resume_lane, stepped]
      have stopping : k.bare.stopping = k.stopping := rfl
      simpa [stopping] using proceed_advances k.bare s.loop s.work d
    · exact .refl _
  | look c => exact feedLane_advances k c d
  | arrive c m' => exact absurd rfl (inside c m')
  | leave t =>
    refine same ?_
    simp only [move]
    split <;> cases d <;> rfl
  | restart tag => exact same (spawn_lane ..)
  | stop tag => exact same (spawn_lane ..)
  | raise | wait t | change tooling => exact same (by cases d <;> rfl)

theorem enqueue_lane (k : Kernel σ) (c d : RequestChannel) (r : Request) (other : d ≠ c) :
    (k.enqueue c r).lane d = k.lane d := by
  unfold enqueue
  split
  · rfl
  · simp [Ne.symm other]

end Kernel

/-! ## Pumps and desks -/

theorem Publisher.Changes.capacity {p q : Publisher} {ms : List Message} (h : p.Changes ms q) :
    q.outbound.capacity = p.outbound.capacity := by
  cases h with
  | stays => rfl
  | accepts m free pushed =>
    rw [push_of_admits free] at pushed
    cases pushed
    rfl
  | turns turn =>
    rcases turn_cases turn with ⟨_, _, _, _, rfl⟩ | ⟨_, _, rfl⟩ <;> rfl
  | drains drain =>
    obtain ⟨_, rfl⟩ := drain_cases drain
    rfl

namespace ConnectedKernel

variable {σ : Type} {n n' : ConnectedKernel σ} {o : Outlet}

/-- Something is done about what is sent through an outlet: the kernel stays as it is, and routers
keep their requests. -/
structure Sends (n n' : ConnectedKernel σ) (o : Outlet) : Prop where
  kernel : n'.kernel = n.kernel
  desks : ∀ c, ∃ p, n'.router c = { n.router c with replies := p }
  others : ∀ c, o ≠ .replies c → n'.router c = n.router c

theorem sends_replies (n : ConnectedKernel σ) (d : RequestChannel) (p : Publisher) :
    n.Sends (n.withRouter d { n.router d with replies := p }) (.replies d) := by
  constructor
  · exact withRouter_kernel ..
  · intro c
    by_cases same : c = d
    · subst same
      exact ⟨p, by simp⟩
    · exact ⟨(n.router c).replies, by simp [same]⟩
  · intro c other
    have apart : c ≠ d := fun same => other (same ▸ rfl)
    simp [apart]

theorem sends_broadcasts (n : ConnectedKernel σ) (p : Publisher) :
    n.Sends { n with iopub := p } .broadcasts := by
  have same (c : RequestChannel) : { n with iopub := p }.router c = n.router c := by
    cases c <;> rfl
  exact ⟨rfl, fun c => ⟨_, same c⟩, fun c _ => same c⟩

theorem offer_sends {e : Emission} (h : n.offer? e = some n') : n.Sends n' e.outlet := by
  cases e with
  | reply d r p =>
    obtain ⟨q, pushed, rfl⟩ := Option.map_eq_some_iff.mp h
    obtain ⟨p', _, rfl⟩ := Option.map_eq_some_iff.mp pushed
    have sends := sends_replies { n with stamped := n.stamped + 1 } d p'
    exact ⟨sends.kernel, fun c => by simpa using sends.desks c,
      fun c other => by simpa using sends.others c other⟩
  | broadcast r p =>
    obtain ⟨p', _, rfl⟩ := Option.map_eq_some_iff.mp h
    have sends := sends_broadcasts { n with stamped := n.stamped + 1 } p'
    exact ⟨sends.kernel, fun c => by simpa using sends.desks c,
      fun c other => by simpa using sends.others c other⟩

theorem turn_sends (h : n.turn? o = some n') : n.Sends n' o := by
  cases o with
  | replies d =>
    obtain ⟨_, turned, rfl⟩ := Option.map_eq_some_iff.mp h
    obtain ⟨p, _, rfl⟩ := Router.turn_cases turned
    exact sends_replies n d p
  | broadcasts =>
    obtain ⟨p, _, rfl⟩ := Option.map_eq_some_iff.mp h
    exact sends_broadcasts n p

theorem drain_sends (h : n.drain? o = some n') : n.Sends n' o := by
  cases o with
  | replies d =>
    obtain ⟨_, drained, rfl⟩ := Option.map_eq_some_iff.mp h
    obtain ⟨_, p, _, rfl⟩ := Router.drain_cases drained
    exact sends_replies n d p
  | broadcasts =>
    obtain ⟨p, _, rfl⟩ := Option.map_eq_some_iff.mp h
    exact sends_broadcasts n p

end ConnectedKernel

/-- A request that came off the wire. -/
def Request.Wired (r : Request) : Prop := ∃ m, Request.ofMessage m = .ok r

theorem Router.decode_wired {signer : Signer} {frames : List Bytes} {r : Request}
    (read : Router.decode signer frames = .ok r) : r.Wired := by
  unfold Router.decode at read
  split at read
  · exact ⟨_, read⟩
  · cases read

/-- A step of the router keeps its queue, and it gets requests off the wire only. -/
structure Router.Keeps (r r' : Router) : Prop where
  capacity : r'.inbound.capacity = r.inbound.capacity
  closed : r'.inbound.closed = r.inbound.closed
  wired : ∀ q ∈ r'.held.toList ++ r'.inbound.items,
    q ∈ r.held.toList ++ r.inbound.items ∨ q.Wired

namespace Router.Keeps

theorem refl (r : Router) : r.Keeps r := ⟨rfl, rfl, fun _ => Or.inl⟩

theorem sends (r : Router) (p : Publisher) : r.Keeps { r with replies := p } :=
  ⟨rfl, rfl, fun _ => Or.inl⟩

theorem receives {r r' : Router} {signer : Signer} {frames : List Bytes}
    (received : r.receive? signer frames = some r') : r.Keeps r' := by
  unfold Router.receive? at received
  split at received
  · split at received
    · rename_i q read
      cases received
      refine ⟨rfl, rfl, fun q' member => ?_⟩
      rcases List.mem_append.mp member with held | waiting
      · simp only [Option.toList_some, List.mem_singleton] at held
        exact Or.inr (held ▸ Router.decode_wired read)
      · exact Or.inl (List.mem_append_right _ waiting)
    · cases received
      exact refl r
  · cases received

theorem hands {r r' : Router} (handed : r.hand? = some r') : r.Keeps r' := by
  unfold Router.hand? at handed
  split at handed
  · cases handed
  · rename_i q held
    obtain ⟨inbound, pushed, rfl⟩ := Option.map_eq_some_iff.mp handed
    unfold Queue.push? at pushed
    split at pushed
    · cases pushed
      exact ⟨rfl, rfl, fun _ member => Or.inl (List.mem_append_right _ (by simpa using member))⟩
    · split at pushed
      · cases pushed
        refine ⟨rfl, rfl, fun q' member => Or.inl ?_⟩
        simp only [Option.toList_none, List.nil_append, List.mem_append, List.mem_singleton]
          at member
        simp only [held, Option.toList_some, List.mem_append, List.mem_singleton]
        exact member.symm
      · cases pushed

theorem takes {r r' : Router} {q : Request} (took : r.take? = some (q, r')) : r.Keeps r' := by
  obtain ⟨⟨q', rest⟩, popped, same⟩ := Option.map_eq_some_iff.mp took
  cases same
  unfold Queue.pop? at popped
  split at popped
  · cases popped
  · rename_i waiting
    cases popped
    refine ⟨rfl, rfl, fun q' member => Or.inl ?_⟩
    simp only [waiting, List.mem_append, List.mem_cons] at member ⊢
    exact member.imp_right Or.inr

end Router.Keeps

/-- A router takes only requests that wait for it. -/
theorem Router.take_mem {r r' : Router} {q : Request} (took : r.take? = some (q, r')) :
    q ∈ r.inbound.items := by
  obtain ⟨⟨q', rest⟩, popped, same⟩ := Option.map_eq_some_iff.mp took
  cases same
  unfold Queue.pop? at popped
  split at popped
  · cases popped
  · rename_i waiting
    cases popped
    simp [waiting]

/-! ## Stops that no strand takes -/

namespace Traffic

variable {t : Traffic} {ps : Multiset StopPhase}

/-- The traffic with more stops. -/
def besides (t : Traffic) (ps : Multiset StopPhase) : Traffic := { t with stops := ps + t.stops }

/-- What is done beside some stops does not concern them. -/
theorem Step.besides {limit : Duration} {d : Deed} {u : Traffic} (h : Step limit t d u) :
    Step limit (t.besides ps) d (u.besides ps) := by
  cases h with
  | joins pending => exact .joins pending
  | creates free => exact .creates free
  | turns flying turn => exact .turns flying turn
  | calls flying turn x =>
    have there : (t.besides ps).flights = _ := flying
    exact .calls there turn x
  | lands flying ended => exact .lands flying ended
  | leaves waits landed => exact .leaves waits landed
  | stops =>
    simp only [Traffic.besides, Multiset.add_cons]
    exact .stops
  | @stopTurns q rest step going turn =>
    simp only [Traffic.besides, going, Multiset.add_cons]
    exact .stopTurns rfl turn
  | @stopCalls q rest c next going turn x =>
    simp only [Traffic.besides, going, Multiset.add_cons]
    exact .stopCalls rfl turn x
  | @stopEnds q o rest going ended =>
    simp only [Traffic.besides, going, Multiset.add_cons]
    exact .stopEnds rfl ended

theorem Follows.besides {limit : Duration} {d? : Option Deed} {u : Traffic}
    (h : t.Follows limit u d?) : (t.besides ps).Follows limit (u.besides ps) d? := by
  cases d? with
  | none => exact congrArg (·.besides ps) h
  | some d => exact Step.besides h

end Traffic

namespace Kernel

variable {σ : Type} {k : Kernel σ} {p : StopPhase}

/-- What a stop that no strand takes does to the traffic. -/
def stopDeed? (k : Kernel σ) (p : StopPhase) : Option Deed :=
  match p.turn with
  | .locked _ => some .halts
  | .call c _ => some (.stopCalls ⟨c, (k.backend c k.tooling).1⟩)
  | .finished => none

/-- A stop that goes on beside the strands is a stop as any other. -/
theorem turnStop_traffic (k : Kernel σ) (p : StopPhase) :
    (k.traffic.besides {p}).Follows k.config.disposeTimeout
      ((k.turnStop p).2.traffic.besides {(k.turnStop p).1}) (k.stopDeed? p) := by
  simp only [Traffic.besides, Multiset.singleton_add]
  cases turn : p.turn with
  | locked step =>
    simp only [turnStop, stopDeed?, turn]
    exact Traffic.Step.stopTurns rfl turn
  | call c next =>
    simp only [turnStop, stopDeed?, turn]
    rw [show (k.ask c).2.traffic = _ from trafficOf_ask k c k.strands,
      StopPhase.errand_of_turn turn]
    exact Traffic.Step.stopCalls rfl turn (k.backend c k.tooling).1
  | finished =>
    simp only [turnStop, stopDeed?, turn]
    rfl

/-- Flights are not ended with the loops. -/
theorem abortLoops_flights (orderly : k.Orderly) :
    k.abortLoops.traffic.flights = k.traffic.flights := by
  simp only [traffic, trafficOf, abortLoops, List.filterMap_filter]
  refine congrArg _ (List.filterMap_congr fun s member => ?_)
  split
  · rfl
  · rename_i own
    cases work : s.work with
    | flying f p =>
      have stays := orderly s member
      rw [work] at stays
      exact absurd (congrArg Option.isNone stays) own
    | _ => rfl

theorem turnStop_grows (k : Kernel σ) (p : StopPhase) : k.Grows (k.turnStop p).2 := by
  unfold turnStop
  split
  · exact .same rfl rfl rfl rfl rfl
  · exact grows_ask k _
  · exact .same rfl rfl rfl rfl rfl

theorem turnStop_lane (k : Kernel σ) (p : StopPhase) (c : RequestChannel) :
    (k.turnStop p).2.lane c = k.lane c := by
  unfold turnStop
  split <;> cases c <;> rfl

theorem turnStop_strands (k : Kernel σ) (p : StopPhase) : (k.turnStop p).2.strands = k.strands := by
  unfold turnStop
  split <;> rfl

theorem turnStop_past (k : Kernel σ) (p : StopPhase) (c : RequestChannel) :
    (k.turnStop p).2.past c = k.past c := by
  unfold turnStop
  split
  · rfl
  · simp [past, ask, Event.loop?]
  · rfl

/-- A loop stays in order when moves are made one after the other. -/
theorem LoopIs.play {c : RequestChannel} {arrived : List Request} (h : k.LoopIs c arrived [])
    (orderly : k.Orderly) (wired : ∀ r ∈ arrived, r.Wired) (moves : List (Move σ)) :
    (k.play moves).LoopIs c (arrived ++ arrivals c moves) [] := by
  refine play_keeps_orderly (P := fun past j => j.LoopIs c (arrived ++ arrivals c past) [])
    orderly (by simpa [arrivals] using h) ?_ moves
  intro past m tidy loop
  rw [arrivals_snoc, ← List.append_assoc]
  refine loop.move tidy ?_ m
  intro r member
  rcases List.mem_append.mp member with old | new
  · exact wired r old
  · exact arrivals_wired past r new

end Kernel

/-! ## Deployments -/

namespace Exchange

variable {σ : Type} (x : Exchange σ) (k : Kernel σ) (c d : RequestChannel) (o : Outlet)

@[simp] theorem withKernel_outlet : (x.withKernel k).node.outlet o = x.node.outlet o :=
  ConnectedKernel.outlet_kernel ..

@[simp] theorem withKernel_router : (x.withKernel k).node.router c = x.node.router c :=
  ConnectedKernel.router_kernel ..

@[simp] theorem withKernel_kernel : (x.withKernel k).node.kernel = k := rfl

@[simp] theorem withRouter_kernel (r : Router) : (x.withRouter c r).node.kernel = x.node.kernel :=
  ConnectedKernel.withRouter_kernel ..

@[simp] theorem withRouter_router (r : Router) :
    (x.withRouter c r).node.router d = if d = c then r else x.node.router d :=
  ConnectedKernel.withRouter_router ..

theorem hangUpOf_kernel : (x.hangUpOf c).node.kernel = x.node.kernel := by
  unfold hangUpOf
  split
  · exact withRouter_kernel ..
  · rfl

theorem hangUpOf_outlet : (x.hangUpOf c).node.outlet o = x.node.outlet o := by
  unfold hangUpOf
  split
  · exact ConnectedKernel.withRouter_outlet rfl
  · rfl

theorem hangUpOf_router : (x.hangUpOf c).node.router d =
    if d = c ∧ (x.node.kernel.lane c).ended = true then (x.node.router d).hangUp
    else x.node.router d := by
  unfold hangUpOf
  by_cases gone : (x.node.kernel.lane c).ended = true
  · by_cases same : d = c
    · subst same
      simp [gone]
    · simp [gone, same]
  · simp [gone]

@[simp] theorem hangUp_kernel : x.hangUp.node.kernel = x.node.kernel :=
  (hangUpOf_kernel ..).trans (hangUpOf_kernel ..)

@[simp] theorem hangUp_outlet : x.hangUp.node.outlet o = x.node.outlet o :=
  (hangUpOf_outlet ..).trans (hangUpOf_outlet ..)

@[simp] theorem hangUp_router : x.hangUp.node.router c =
    if (x.node.kernel.lane c).ended then (x.node.router c).hangUp else x.node.router c := by
  rw [hangUp, hangUpOf_router, hangUpOf_kernel, hangUpOf_router]
  cases c <;> simp

@[simp] theorem hangUp_closing : x.hangUp.closing = x.closing := by
  unfold hangUp hangUpOf
  split <;> split <;> rfl

@[simp] theorem hangUp_deserted : x.hangUp.deserted = x.deserted := by
  unfold hangUp hangUpOf
  split <;> split <;> rfl

theorem isClosed_iff : x.isClosed = true ↔ ∀ o, (x.node.outlet o).phase = .closed := by
  simp only [isClosed, Bool.and_eq_true, beq_iff_eq]
  constructor
  · rintro ⟨⟨shell, control⟩, iopub⟩ o
    rcases o with ⟨_ | _⟩ | _
    · exact shell
    · exact control
    · exact iopub
  · intro all
    exact ⟨⟨all (.replies .shell), all (.replies .control)⟩, all .broadcasts⟩

end Exchange

namespace Deployment

variable {σ : Type} {x y : Deployment σ} {m : Motion σ} {e : Exchange σ} {t : Teardown}
  {config : KernelConfig}

/-- The traffic, with the stop that comes with tearing down. -/
def traffic (x : Deployment σ) : Traffic :=
  match x.teardown with
  | .stopping p => x.kernel.traffic.besides {p}
  | _ => x.kernel.traffic

/-- What a motion does to the traffic. -/
def deed? (x : Deployment σ) : Motion σ → Option Deed
  | .happens (.move mv) => x.kernel.deed? mv
  | .tearDown =>
      match x.teardown with
      | .closing => some .stops
      | .stopping p => x.kernel.stopDeed? p
      | _ => none
  | _ => none

theorem traffic_supervisor (x : Deployment σ) : x.traffic.supervisor = x.kernel.supervisor := by
  unfold traffic
  split <;> rfl

theorem traffic_flights (x : Deployment σ) : x.traffic.flights = x.kernel.traffic.flights := by
  unfold traffic
  split <;> rfl

theorem traffic_waiting (x : Deployment σ) : x.traffic.waiting = x.kernel.traffic.waiting := by
  unfold traffic
  split <;> rfl

theorem traffic_landings (x : Deployment σ) : x.traffic.landings = x.kernel.landings := by
  unfold traffic
  split <;> rfl

/-- The queue of requests before a loop: it is closed just when the loop has ended. -/
structure Desk (capacity : Nat) (ended : Bool) (r : Router) : Prop where
  capacity : r.inbound.capacity = capacity
  wired : ∀ q ∈ r.held.toList ++ r.inbound.items, q.Wired
  closed : r.inbound.closed = ended
  emptied : ended = true → r.inbound.items = []

/-- What holds of a deployment whatever has happened. -/
structure Regular (config : KernelConfig) (x : Deployment σ) : Prop where
  governed : x.kernel.config = config
  obedient : x.kernel.obedient = true
  orderly : x.kernel.Orderly
  pumps : ∀ o, (x.node.outlet o).Sound ∧ (x.node.outlet o).outbound.capacity = config.capacity
  settled : x.exchange.Settled
  desks : ∀ c, Desk config.capacity (x.kernel.lane c).ended (x.node.router c)
  lanes : ∀ c, (x.kernel.lane c).Tidy
  loops : x.teardown ≠ .gone → ∀ c, ∃ arrived, (∀ r ∈ arrived, r.Wired) ∧
    x.kernel.LoopIs c arrived []
  traffic : x.teardown ≠ .gone → x.traffic.Regular ∧ x.traffic.Joined
  sound : x.traffic.Sound
  left : x.teardown = .gone → ∀ c, (x.kernel.lane c).ended = true
  deserted : x.exchange.deserted = true → ∀ c, (x.kernel.lane c).ended = true
  asked : x.teardown ≠ .awaiting → 0 < x.kernel.signals ∧ x.exchange.closing = true
  shut : x.teardown ≠ .awaiting → x.teardown ≠ .closing →
    ∀ o, (x.node.outlet o).phase = .closed

theorem opened_regular (config : KernelConfig) (backend : Backend σ) (tooling : σ)
    (signer : Signer) (endpoints : Endpoints) (stamps : Nat → Stamp) :
    (opened config backend tooling signer endpoints stamps).Regular config where
  governed := rfl
  obedient := rfl
  orderly := Kernel.new_orderly config backend tooling true
  pumps o := by
    rw [show (opened config backend tooling signer endpoints stamps).node.outlet o =
      .new config.capacity from Exchange.opened_outlet ..]
    exact ⟨Publisher.new_sound _, rfl⟩
  settled c stopped := by
    cases c <;> exact (stopped rfl).elim
  desks c := by
    cases c <;> exact ⟨rfl, by simp [opened, Exchange.opened, ConnectedKernel.router, Router.new,
      Queue.new], rfl, fun _ => rfl⟩
  lanes c := by cases c <;> exact ⟨rfl, fun _ => rfl⟩
  loops _ c := ⟨[], by simp, Kernel.play_loop config backend tooling true [] c⟩
  traffic _ := ⟨.initial, by simp [Traffic.Joined, traffic, opened, Exchange.opened,
    Kernel.traffic, Kernel.trafficOf, Kernel.new]⟩
  sound := .initial
  left gone := by cases gone
  deserted gone := by cases gone
  asked never := (never rfl).elim
  shut never := (never rfl).elim

/-- Something that happens in the exchange is a step of the exchange. -/
theorem Leads.stepped {h : Happening σ} (led : x.Leads (.happens h) e t) :
    x.exchange.step? h = some e := by
  cases led with
  | moves admitted given => simp [Exchange.step?, given]
  | receives received => simp [Exchange.step?, received]
  | hands handed => simp [Exchange.step?, handed]
  | sends turned => simp [Exchange.step?, turned]
  | notices must noticed => simp [Exchange.step?, must, noticed]
  | deserts alone => rfl

theorem traffic_of_kernel {f : Exchange σ} (same : f.node.kernel = e.node.kernel) (t : Teardown) :
    (⟨f, t⟩ : Deployment σ).traffic = (⟨e, t⟩ : Deployment σ).traffic := by
  cases t <;> simp [traffic, same]

/-- What a deed does to the traffic of the kernel it does to that of the deployment. -/
theorem follows_of_kernel {limit : Duration} {d? : Option Deed}
    (follows : x.kernel.traffic.Follows limit e.node.kernel.traffic d?) :
    x.traffic.Follows limit (⟨e, x.teardown⟩ : Deployment σ).traffic d? := by
  cases at_ : x.teardown with
  | stopping p =>
    simp only [traffic, at_, mk_kernel]
    exact follows.besides
  | _ => simpa only [traffic, at_] using follows

/-- Unless it ends the loops, a motion does to the traffic what its deed says. -/
theorem Leads.traffic (h : x.Leads m e t) (regular : x.Regular config)
    (going : t = .gone → x.teardown = .gone) :
    x.traffic.Follows config.disposeTimeout (⟨e, t⟩ : Deployment σ).traffic (x.deed? m) := by
  have governed := regular.governed
  have moves (mv : Move σ) : x.kernel.traffic.Follows config.disposeTimeout
      (x.kernel.move mv).traffic (x.kernel.deed? mv) :=
    governed ▸ Kernel.move_traffic regular.orderly mv
  have still (same : e.node.kernel = x.kernel) :
      x.kernel.traffic.Follows config.disposeTimeout e.node.kernel.traffic none := by rw [same]; rfl
  cases h with
  | moves admitted given => exact follows_of_kernel (moves _)
  | receives | hands => exact follows_of_kernel (still (Exchange.withRouter_kernel ..))
  | sends turned => exact follows_of_kernel (still (ConnectedKernel.turn_sends turned).kernel)
  | notices must noticed =>
    exact follows_of_kernel (still (ConnectedKernel.drain_sends noticed).kernel)
  | deserts => exact follows_of_kernel (still rfl)
  | @ends c idle asked => exact follows_of_kernel (moves (.look c))
  | @begins c r router idle unasked took =>
    obtain ⟨m, read⟩ := (regular.desks c).wired r
      (List.mem_append_right _ (Router.take_mem took))
    -- It came off the wire, so to begin it is an arrival and a look.
    have arrived : x.kernel.enqueue c r = x.kernel.move (.arrive c m) := by simp [Kernel.move, read]
    have before : (x.kernel.enqueue c r).traffic = x.kernel.traffic := arrived ▸ moves (.arrive c m)
    have after := Kernel.move_traffic (Kernel.move_orderly regular.orderly (.arrive c m)) (.look c)
    rw [← arrived] at after
    exact follows_of_kernel (Eq.trans after before)
  | closes awaits asked => simp [Deployment.traffic, deed?, awaits, Traffic.Follows]
  | stops closing closed =>
    simp only [Deployment.traffic, deed?, closing, Traffic.besides, Multiset.singleton_add]
    exact Traffic.Step.stops
  | @turns p stopping ended =>
    simp only [Deployment.traffic, deed?, stopping, mk_kernel, Exchange.withKernel_kernel]
    exact governed ▸ x.kernel.turnStop_traffic p
  | aborts stopping ended free =>
    have gone := going rfl
    rw [stopping] at gone
    cases gone

/-- The flights and the supervisor stay sound, also when the loops are ended. -/
theorem Leads.sound (h : x.Leads m e t) (regular : x.Regular config) :
    (⟨e, t⟩ : Deployment σ).traffic.Sound := by
  by_cases going : t = .gone → x.teardown = .gone
  · rcases (h.traffic regular going).cases with unchanged | ⟨d, _, step⟩
    · rw [unchanged]
      exact regular.sound
    · exact regular.sound.step step
  · cases h with
    | aborts stopping ended free =>
      refine regular.sound.congr ?_ ?_
      · rw [traffic_supervisor, traffic_supervisor]
        rfl
      · rw [traffic_flights, traffic_flights]
        exact Kernel.abortLoops_flights regular.orderly
    | closes | stops | turns => exact absurd nofun going
    | _ => exact absurd id going

/-- What a motion does to the kernel: it makes moves that ask for no stop, or takes a step of the
stop that comes with tearing down, or ends the loops. -/
theorem Leads.kernel (h : x.Leads m e t) (regular : x.Regular config) :
    (∃ moves : List (Move σ), e.node.kernel = x.kernel.play moves ∧
      (∀ mv ∈ moves, ∀ tag, mv ≠ .stop tag) ∧ (t = .gone ↔ x.teardown = .gone)) ∨
    (∃ p, x.teardown = .stopping p ∧ p.outcome? = none ∧
      e.node.kernel = (x.kernel.turnStop p).2 ∧ t = .stopping (x.kernel.turnStop p).1) ∨
    (∃ p, x.teardown = .stopping p ∧ p.outcome? = some .stopped ∧
      x.kernel.isInterruptible = true ∧ e.node.kernel = x.kernel.abortLoops ∧ t = .gone) := by
  have still (same : e.node.kernel = x.kernel) (further : t = .gone ↔ x.teardown = .gone) :
      ∃ moves : List (Move σ), e.node.kernel = x.kernel.play moves ∧
        (∀ mv ∈ moves, ∀ tag, mv ≠ .stop tag) ∧ (t = .gone ↔ x.teardown = .gone) :=
    ⟨[], same, nofun, further⟩
  cases h with
  | @moves mv n admitted given =>
    refine Or.inl ⟨[mv], rfl, ?_, .rfl⟩
    intro mv' member tag same
    rw [List.mem_singleton.mp member] at same
    subst same
    cases admitted
  | receives | hands => exact Or.inl (still (Exchange.withRouter_kernel ..) .rfl)
  | sends turned => exact Or.inl (still (ConnectedKernel.turn_sends turned).kernel .rfl)
  | notices must noticed =>
    exact Or.inl (still (ConnectedKernel.drain_sends noticed).kernel .rfl)
  | deserts alone => exact Or.inl (still rfl .rfl)
  | @ends c idle asked => exact Or.inl ⟨[.look c], rfl, by simp, .rfl⟩
  | @begins c r router idle unasked took =>
    obtain ⟨m, read⟩ := (regular.desks c).wired r
      (List.mem_append_right _ (Router.take_mem took))
    refine Or.inl ⟨[.arrive c m, .look c], ?_, by simp, .rfl⟩
    simp [Kernel.move, read]
  | closes awaits asked => exact Or.inl (still rfl (by simp [awaits]))
  | stops closing closed => exact Or.inl (still rfl (by simp [closing]))
  | turns stopping going => exact Or.inr (Or.inl ⟨_, stopping, going, rfl, rfl⟩)
  | aborts stopping ended free => exact Or.inr (Or.inr ⟨_, stopping, ended, free, rfl, rfl⟩)

/-- The outlets of a deployment change as those of its exchange. -/
theorem Leads.outlet (h : x.Leads m e t) (o : Outlet) :
    ∃ ms, (x.node.outlet o).Changes ms (e.node.outlet o) := by
  cases m with
  | happens what =>
    have changes := (Exchange.step_effect x.exchange what).changes o
    rw [Exchange.step_some h.stepped] at changes
    exact ⟨_, changes⟩
  | poll c =>
    refine ⟨[], ?_⟩
    cases h with
    | ends idle asked =>
      rw [Exchange.withKernel_outlet]
      exact .stays _
    | @begins _ r router idle unasked took =>
      have same : (x.exchange.withRouter c router).node.outlet o = x.node.outlet o :=
        ConnectedKernel.withRouter_outlet (Router.take_cases took).1
      rw [Exchange.withKernel_outlet, same]
      exact .stays _
  | tearDown =>
    refine ⟨[], ?_⟩
    cases h with
    | closes | stops => exact .stays _
    | turns | aborts =>
      rw [Exchange.withKernel_outlet]
      exact .stays _

theorem Leads.settled (h : x.Leads m e t) (settled : x.exchange.Settled) : e.Settled := by
  have kept (k : Kernel σ) : (x.exchange.withKernel k).Settled := by
    intro d stopped
    rw [Exchange.withKernel_outlet] at stopped
    rw [Exchange.withKernel_router]
    exact settled d stopped
  cases m with
  | happens what => exact Exchange.step_some h.stepped ▸ settled.step what
  | poll c =>
    cases h with
    | ends idle asked => exact kept _
    | @begins _ r router idle unasked took =>
      obtain ⟨same, held⟩ := Router.take_cases took
      intro d stopped
      rw [Exchange.withKernel_outlet, show (x.exchange.withRouter c router).node.outlet _ = _ from
        ConnectedKernel.withRouter_outlet same] at stopped
      have free := settled d stopped
      rw [Exchange.withKernel_router, Exchange.withRouter_router]
      split
      · rename_i here
        subst here
        exact held.trans free
      · exact free
  | tearDown =>
    cases h with
    | closes | stops => exact settled
    | turns | aborts => exact kept _

theorem keeps_withRouter {n : ConnectedKernel σ} {c : RequestChannel} {r : Router}
    (keeps : (n.router c).Keeps r) (d : RequestChannel) :
    (n.router d).Keeps ((n.withRouter c r).router d) := by
  rw [ConnectedKernel.withRouter_router]
  split
  · rename_i here
    exact here ▸ keeps
  · exact .refl _

theorem keeps_sends {n n' : ConnectedKernel σ} {o : Outlet} (sends : n.Sends n' o)
    (c : RequestChannel) : (n.router c).Keeps (n'.router c) := by
  obtain ⟨p, same⟩ := sends.desks c
  rw [same]
  exact .sends ..

/-- Whatever is given to an outlet, or to none, the routers keep their requests. -/
theorem give_keeps {x : Exchange σ} {e : Option Emission} {n : ConnectedKernel σ}
    (given : x.give? e = some n) (c : RequestChannel) : (x.node.router c).Keeps (n.router c) := by
  cases e with
  | none =>
    cases given
    exact .refl _
  | some e =>
    simp only [Exchange.give?, Option.ite_none_left_eq_some] at given
    exact keeps_sends (ConnectedKernel.offer_sends given.2) c

theorem Leads.keeps (h : x.Leads m e t) (c : RequestChannel) :
    (x.node.router c).Keeps (e.node.router c) := by
  cases h with
  | moves admitted given =>
    rw [Exchange.withNode_node, ConnectedKernel.router_kernel]
    exact give_keeps given c
  | receives received => exact keeps_withRouter (.receives received) c
  | hands handed => exact keeps_withRouter (.hands handed) c
  | sends turned => exact keeps_sends (ConnectedKernel.turn_sends turned) c
  | notices must noticed => exact keeps_sends (ConnectedKernel.drain_sends noticed) c
  | begins idle unasked took =>
    rw [Exchange.withKernel_router]
    exact keeps_withRouter (.takes took) c
  | deserts | closes | stops => exact .refl _
  | ends | turns | aborts =>
    rw [Exchange.withKernel_router]
    exact .refl _

/-- A loop that begins a request has no other in its lane. -/
theorem begin_lane {k : Kernel σ} {c : RequestChannel} (r : Request)
    (empty : (k.lane c).queue = []) (busy : (k.lane c).busy = false)
    (ended : (k.lane c).ended = false) (unasked : k.stopping = false) (d : RequestChannel) :
    ((k.enqueue c r).feedLane c).lane d = if d = c then ⟨[], true, false⟩ else k.lane d := by
  have going : ((k.enqueue c r).obedient && 0 < (k.enqueue c r).signals) = false := by
    have same : (k.enqueue c r).stopping = k.stopping := by
      simp [Kernel.enqueue, ended, Kernel.stopping]
    exact same.trans unasked
  have lane : (k.enqueue c r).lane c = ⟨[r], false, false⟩ := by
    simp [Kernel.enqueue, ended, empty, busy]
  simp only [Kernel.feedLane, lane, going, Bool.or_self, Bool.false_eq_true, if_false]
  by_cases here : d = c
  · simp [here]
  · simp [here, Ne.symm here, Kernel.enqueue_lane k c d r here]

/-- Each lane goes on, or begins a request. -/
theorem Leads.lane (h : x.Leads m e t) (regular : x.Regular config) (c : RequestChannel) :
    (x.kernel.lane c).Advances x.kernel.stopping (e.node.kernel.lane c) ∨
      (x.kernel.isIdle c = true ∧ e.node.kernel.lane c = ⟨[], true, false⟩) ∨
      e.node.kernel.lane c = ⟨[], false, true⟩ := by
  have same {k : Kernel σ} (h : k = x.kernel) :
      (x.kernel.lane c).Advances x.kernel.stopping (k.lane c) := h ▸ .refl _
  cases h with
  | @moves mv n admitted given =>
    refine Or.inl (Kernel.move_advances _ ?_ c)
    rintro d m' rfl
    cases admitted
  | receives | hands => exact Or.inl (same (Exchange.withRouter_kernel ..))
  | sends turned => exact Or.inl (same (ConnectedKernel.turn_sends turned).kernel)
  | notices must noticed => exact Or.inl (same (ConnectedKernel.drain_sends noticed).kernel)
  | @ends d idle asked => exact Or.inl (Kernel.feedLane_advances _ d c)
  | @begins d r router idle unasked took =>
    obtain ⟨busy, ended⟩ := Kernel.isIdle_iff.mp idle
    have lane := begin_lane r (regular.lanes d).empty busy ended unasked c
    rw [Exchange.withKernel_kernel, lane]
    split
    · rename_i here
      subst here
      exact Or.inr (Or.inl ⟨idle, rfl⟩)
    · exact Or.inl (.refl _)
  | turns =>
    refine Or.inl ?_
    rw [Exchange.withKernel_kernel, Kernel.turnStop_lane]
    exact .refl _
  | aborts => exact Or.inr (Or.inr (by cases c <;> rfl))
  | deserts | closes | stops => exact Or.inl (.refl _)

/-- Nothing is torn down before the kernel is asked to exit, and the channels are told to close
first. -/
theorem Leads.asked (h : x.Leads m e t) (regular : x.Regular config) (began : t ≠ .awaiting) :
    0 < x.kernel.signals ∧ e.closing = true := by
  cases h with
  | closes awaits signalled => exact ⟨signalled, rfl⟩
  | stops closing closed => exact regular.asked (by simp [closing])
  | turns stopping going => exact regular.asked (by simp [stopping])
  | aborts stopping ended free => exact regular.asked (by simp [stopping])
  | _ => exact regular.asked began

theorem Leads.deserted (h : x.Leads m e t) (before : x.exchange.deserted = true →
    ∀ c, (x.kernel.lane c).ended = true) (after : e.deserted = true) (c : RequestChannel) :
    (x.kernel.lane c).ended = true := by
  cases h with
  | deserts alone => exact alone c
  | _ => exact before after c

theorem Leads.shut (h : x.Leads m e t) (regular : x.Regular config) (late : t ≠ .awaiting)
    (later : t ≠ .closing) (o : Outlet) : (e.node.outlet o).phase = .closed := by
  have kept (late : x.teardown ≠ .awaiting) (later : x.teardown ≠ .closing) :
      (e.node.outlet o).phase = .closed := by
    obtain ⟨ms, changes⟩ := h.outlet o
    have closed := regular.shut late later o
    rw [changes.closed (regular.pumps o).1 closed]
    exact closed
  cases h with
  | closes awaits asked => exact absurd rfl later
  | stops closing closed => exact x.exchange.isClosed_iff.mp closed o
  | turns stopping going => exact kept (by simp [stopping]) (by simp [stopping])
  | aborts stopping ended free => exact kept (by simp [stopping]) (by simp [stopping])
  | _ => exact kept late later

theorem play_signals {k : Kernel σ} (orderly : k.Orderly) (moves : List (Move σ)) :
    k.signals ≤ (k.play moves).signals := by
  refine Kernel.play_keeps_orderly (P := fun _ j => k.signals ≤ j.signals) orderly
    (Nat.le_refl _) ?_ moves
  intro past mv tidy kept
  rcases Kernel.move_cases tidy mv with ⟨exits, raised⟩ | grows
  · rw [raised]
    exact Nat.le_succ_of_le kept
  · rw [grows.signals]
    exact kept

theorem abortLoops_orderly {k : Kernel σ} (orderly : k.Orderly) : k.abortLoops.Orderly :=
  fun s member => orderly s (List.mem_filter.mp member).1

theorem Leads.grows (h : x.Leads m e t) (regular : x.Regular config) :
    e.node.kernel.config = x.kernel.config ∧ e.node.kernel.obedient = x.kernel.obedient ∧
      e.node.kernel.Orderly ∧ x.kernel.signals ≤ e.node.kernel.signals := by
  have orderly := regular.orderly
  rcases h.kernel regular with ⟨moves, same, _⟩ | ⟨p, _, _, same, _⟩ | ⟨p, _, _, _, same, _⟩
  · rw [same]
    exact ⟨Kernel.play_config orderly moves, Kernel.play_obedient orderly moves,
      Kernel.play_orderly orderly moves, play_signals orderly moves⟩
  · have grows := x.kernel.turnStop_grows p
    rw [same]
    exact ⟨grows.config, grows.obedient, grows.orderly orderly, grows.signals.ge⟩
  · rw [same]
    exact ⟨rfl, rfl, abortLoops_orderly orderly, Nat.le_refl _⟩

/-- A lane stays tidy, and a loop that has ended does not begin again. -/
theorem Leads.tidy (h : x.Leads m e t) (regular : x.Regular config) (c : RequestChannel) :
    (e.node.kernel.lane c).Tidy ∧
      ((x.kernel.lane c).ended = true → (e.node.kernel.lane c).ended = true) := by
  have tidy := regular.lanes c
  rcases h.lane regular c with advances | ⟨free, began⟩ | ended
  · refine ⟨advances.tidy tidy, fun gone => ?_⟩
    rw [advances.ended gone (tidy.idle gone)]
    exact gone
  · rw [began]
    refine ⟨⟨rfl, nofun⟩, fun gone => ?_⟩
    rw [(Kernel.isIdle_iff.mp free).2] at gone
    cases gone
  · rw [ended]
    exact ⟨⟨rfl, fun _ => rfl⟩, fun _ => rfl⟩

theorem Leads.going (h : x.Leads m e t) (regular : x.Regular config) (going : t ≠ .gone) :
    x.teardown ≠ .gone := by
  rcases h.kernel regular with ⟨_, _, _, gone⟩ | ⟨p, stopping, _⟩ | ⟨_, _, _, _, _, gone⟩
  · exact fun ended => going (gone.mpr ended)
  · simp [stopping]
  · exact absurd gone going

/-- Until they are ended, the loops stay in order. -/
theorem Leads.loops (h : x.Leads m e t) (regular : x.Regular config) (going : t ≠ .gone)
    (c : RequestChannel) :
    ∃ arrived, (∀ r ∈ arrived, r.Wired) ∧ e.node.kernel.LoopIs c arrived [] := by
  obtain ⟨arrived, wired, loop⟩ := regular.loops (h.going regular going) c
  rcases h.kernel regular with ⟨moves, led, _⟩ | ⟨p, _, _, led, _⟩ | ⟨_, _, _, _, _, gone⟩
  · refine ⟨arrived ++ arrivals c moves, fun r member => ?_,
      led ▸ loop.play regular.orderly wired moves⟩
    rcases List.mem_append.mp member with old | new
    · exact wired r old
    · exact Kernel.arrivals_wired moves r new
  · refine ⟨arrived, wired, led ▸ loop.congr (.still ?_ ?_ ?_)⟩
    · exact Kernel.turnStop_lane ..
    · rw [Kernel.turnStop_strands]
    · exact Kernel.turnStop_past ..
  · exact absurd gone going

/-- A queue is closed just when its loop has ended, also when this motion ends it. -/
theorem Leads.desk (h : x.Leads m e t) (regular : x.Regular config) (c : RequestChannel) :
    Desk config.capacity (e.node.kernel.lane c).ended (e.hangUp.node.router c) := by
  obtain ⟨capacity, wired, closed, _⟩ := regular.desks c
  obtain ⟨capacity', closed', wired'⟩ := h.keeps c
  have known : ∀ q ∈ (e.node.router c).held.toList ++ (e.node.router c).inbound.items,
      q.Wired := fun q member => (wired' q member).elim (wired q) id
  rw [Exchange.hangUp_router]
  cases gone : (e.node.kernel.lane c).ended with
  | true =>
    refine ⟨capacity'.trans capacity, fun q member => known q ?_, rfl, fun _ => rfl⟩
    exact List.mem_append_left _ (by simpa [Router.hangUp] using member)
  | false =>
    have before : (x.kernel.lane c).ended = false := by
      cases ended : (x.kernel.lane c).ended with
      | false => rfl
      | true => exact ((h.tidy regular c).2 ended).symm.trans gone
    exact ⟨capacity'.trans capacity, known, (closed'.trans closed).trans before, nofun⟩

/-- Whatever a motion does, the deployment stays regular. -/
theorem Regular.leads (regular : x.Regular config) (h : x.Leads m e t) :
    Regular config ⟨e.hangUp, t⟩ := by
  obtain ⟨governed, obedient, orderly, signals⟩ := h.grows regular
  have same : (⟨e.hangUp, t⟩ : Deployment σ).kernel = e.node.kernel := e.hangUp_kernel
  have outlet (o : Outlet) : (⟨e.hangUp, t⟩ : Deployment σ).node.outlet o = e.node.outlet o :=
    e.hangUp_outlet o
  constructor
  case governed => rw [same, governed, regular.governed]
  case obedient => rw [same, obedient, regular.obedient]
  case orderly =>
    rw [same]
    exact orderly
  case pumps =>
    intro o
    obtain ⟨ms, changes⟩ := h.outlet o
    obtain ⟨sound, capacity⟩ := regular.pumps o
    rw [outlet]
    exact ⟨changes.sound sound, changes.capacity.trans capacity⟩
  case settled =>
    intro c stopped
    rw [Exchange.hangUp_outlet] at stopped
    have free := h.settled regular.settled c stopped
    rw [Exchange.hangUp_router]
    split <;> exact free
  case desks =>
    intro c
    rw [same]
    exact h.desk regular c
  case lanes =>
    intro c
    rw [same]
    exact (h.tidy regular c).1
  case loops =>
    intro going c
    rw [same]
    exact h.loops regular going c
  case traffic =>
    intro going
    obtain ⟨sound, joined⟩ := regular.traffic (h.going regular going)
    rw [traffic_of_kernel e.hangUp_kernel]
    rcases (h.traffic regular fun gone => absurd gone going).cases with
      unchanged | ⟨d, _, step⟩
    · rw [unchanged]
      exact ⟨sound, joined⟩
    · exact ⟨sound.step step, joined.step sound.sound step⟩
  case sound =>
    rw [traffic_of_kernel e.hangUp_kernel]
    exact h.sound regular
  case left =>
    intro gone c
    rw [same]
    rcases h.kernel regular with ⟨_, _, _, ended⟩ | ⟨_, _, _, _, still⟩ | ⟨_, _, _, _, led, _⟩
    · exact (h.tidy regular c).2 (regular.left (ended.mp gone) c)
    · cases still.symm.trans gone
    · rw [led]
      cases c <;> rfl
  case deserted =>
    intro deserted c
    rw [same]
    refine (h.tidy regular c).2 (h.deserted regular.deserted ?_ c)
    simpa using deserted
  case asked =>
    intro began
    obtain ⟨asked, closing⟩ := h.asked regular began
    rw [same]
    exact ⟨Nat.lt_of_lt_of_le asked signals, by simpa using closing⟩
  case shut =>
    intro late later o
    rw [outlet]
    exact h.shut regular late later o

theorem Regular.step (regular : x.Regular config) (m : Motion σ) : (x.step m).Regular config := by
  rcases x.step_cases m with same | ⟨e, t, led, same⟩
  · rw [same]
    exact regular
  · rw [same]
    exact regular.leads led

theorem Regular.play (regular : x.Regular config) (ms : List (Motion σ)) :
    (x.play ms).Regular config := by
  induction ms generalizing x with
  | nil => exact regular
  | cons m rest ih => exact ih (regular.step m)

end Deployment

end NotebookKernel
