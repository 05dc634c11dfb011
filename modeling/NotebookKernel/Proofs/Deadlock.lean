import NotebookKernel.Proofs.Clogging

/-!
# Channels that come to a standstill

A router waits for room in the queue of its request loop, and a request loop waits for room in the
queue of the replies, which only the router empties. When both wait at once they wait for ever. In
every other case something can be done about what is pending on the channel.
-/

namespace NotebookKernel

/-- A producer has to wait just if the queue is open and full. -/
theorem Queue.push_eq_none {α : Type} {q : Queue α} {a : α} :
    q.push? a = none ↔ q.closed = false ∧ q.hasRoom = false := by
  unfold push?
  cases q.closed <;> cases q.hasRoom <;> simp

/-- A full queue that may hold something does. -/
theorem Queue.items_of_full {α : Type} {q : Queue α} (roomy : 0 < q.capacity)
    (full : q.hasRoom = false) : ∃ a rest, q.items = a :: rest := by
  apply List.exists_cons_of_length_pos
  simp only [hasRoom, decide_eq_false_iff_not, not_lt] at full
  omega

/-- Whether somebody has to wait depends only on the queue. -/
theorem ConnectedKernel.offer_eq_none {σ : Type} {n : ConnectedKernel σ} {e : Emission} :
    n.offer? e = none ↔ (n.outlet e.outlet).outbound.closed = false ∧
      (n.outlet e.outlet).outbound.hasRoom = false := by
  cases e with
  | reply c r p =>
    simp [offer?, enqueue?, Emission.outlet, outlet, Router.enqueue?, Publisher.enqueue?,
      Queue.push_eq_none]
  | broadcast r p =>
    simp [offer?, enqueue?, Emission.outlet, outlet, Publisher.enqueue?, Queue.push_eq_none]

namespace Deployment

variable {σ : Type} {x y : Deployment σ} {m : Motion σ} {e : Exchange σ} {t : Teardown}
  {config : KernelConfig} {c : RequestChannel}

/-- There is a request or a reply on the channel that is not yet done with. -/
def Pending (x : Deployment σ) (c : RequestChannel) : Prop :=
  (x.node.router c).held ≠ none ∨ (x.node.router c).inbound.items ≠ [] ∨
    (x.kernel.lane c).busy = true ∨ (x.node.router c).replies.outbound.items ≠ []

/-- The request loop has a reply to send for which there is no room. -/
def IsMuted (x : Deployment σ) (c : RequestChannel) : Prop :=
  ∃ s ∈ x.kernel.strands, s.loop = some c ∧
    ∃ e, s.work.emission? = some e ∧ e.outlet = .replies c ∧ x.node.offer? e = none

/-- The router waits for room for a request, and the request loop for room for a reply. -/
structure Jammed (x : Deployment σ) (c : RequestChannel) : Prop where
  stuck : (x.node.router c).IsStuck
  muted : x.IsMuted c

/-- A step towards being done with what is pending on the channel: by its router, by its request
loop, or by the pump of the broadcasts or a flight that the loop waits for. -/
inductive Furthers (x : Deployment σ) (c : RequestChannel) : Motion σ → Prop
  | hands : Furthers x c (.happens (.hand c))
  | replies : Furthers x c (.happens (.turn (.replies c)))
  | polls : Furthers x c (.poll c)
  | goes {i : Nat} {s : Strand} (found : x.kernel.strands[i]? = some s) (own : s.loop = some c) :
      Furthers x c (.happens (.move (.go i)))
  | broadcasts : Furthers x c (.happens (.turn .broadcasts))
  | flies {i : Nat} {s : Strand} {f : FlightId} {p : FlightPhase}
      (found : x.kernel.strands[i]? = some s) (flying : s.work = .flying f p) :
      Furthers x c (.happens (.move (.go i)))

/-- Something can be done about what is pending on the channel. -/
def CanFurther (x : Deployment σ) (c : RequestChannel) : Prop :=
  ∃ m, x.Furthers c m ∧ (x.step? m).isSome = true

theorem CanFurther.of_leads (furthers : x.Furthers c m) (h : x.Leads m e t) : x.CanFurther c :=
  ⟨m, furthers, by simp [step_of_leads h]⟩

/-- A strand that sends nothing can go on, if it is ready. -/
theorem goes_silent {i : Nat} {s : Strand} (found : x.kernel.strands[i]? = some s)
    (ready : x.kernel.isReady s = true) (silent : s.work.emission? = none) :
    ∃ e t, x.Leads (.happens (.move (.go i))) e t := by
  refine ⟨_, _, .moves (n := x.node) ?_ ?_⟩
  · simp [admits, found, ready]
  · simp [Kernel.emission?, found, silent, Exchange.give?]

namespace Regular

variable (regular : x.Regular config)

include regular

/-- The pump of a queue in which something waits can take a turn, unless its router holds a
request. -/
theorem turn_of_waiting {o : Outlet} (waiting : (x.node.outlet o).outbound.items ≠ [])
    (free : ∀ c, o = .replies c → (x.node.router c).held = none) :
    ∃ e t, x.Leads (.happens (.turn o)) e t := by
  have able : ∃ p, (x.node.outlet o).turn? = some p := by
    obtain ⟨first, rest, items⟩ := List.exists_cons_of_ne_nil waiting
    have going : (x.node.outlet o).phase ≠ .closed := fun closed =>
      waiting ((regular.pumps o).1.emptied closed)
    cases phase : (x.node.outlet o).phase with
    | closed => exact absurd phase going
    | _ => simp [Publisher.turn?, Publisher.send?, Queue.pop?, phase, items]
  obtain ⟨p, turned⟩ := able
  cases o with
  | broadcasts =>
    exact ⟨_, _, .sends (Option.map_eq_some_iff.mpr ⟨p, turned, rfl⟩)⟩
  | replies c =>
    have goes := Router.turn_eq (free c rfl)
    rw [show (x.node.router c).replies.turn? = some p from turned] at goes
    exact ⟨_, _, .sends (Option.map_eq_some_iff.mpr ⟨_, goes, rfl⟩)⟩

theorem waiting_of_full (roomy : 0 < config.capacity) {o : Outlet}
    (full : (x.node.outlet o).outbound.hasRoom = false) :
    (x.node.outlet o).outbound.items ≠ [] := by
  have capacity := (regular.pumps o).2
  obtain ⟨_, _, items⟩ := Queue.items_of_full (capacity ▸ roomy) full
  simp [items]

/-- A flight that someone waits for has landed, or goes on. -/
theorem flight_goes (going : x.teardown ≠ .gone) {s : Strand} (member : s ∈ x.kernel.strands)
    {f : FlightId} {next : FlightOutcome → Job Finish} (waits : s.work = .joined f next)
    (aloft : x.kernel.landing? f = none) : x.CanFurther c := by
  obtain ⟨flights, joined⟩ := regular.traffic going
  have waiting : f ∈ x.traffic.waiting := by
    rw [x.traffic_waiting]
    exact List.mem_filterMap.mpr ⟨s, member, by rw [waits]; rfl⟩
  rcases flights.flies_or_landed (joined f waiting) with ⟨p, flies⟩ | ⟨o, landed⟩
  · rw [x.traffic_flights] at flies
    obtain ⟨s', member', flying⟩ := List.mem_filterMap.mp (Multiset.mem_coe.mp flies)
    obtain ⟨i, found⟩ := List.getElem?_of_mem member'
    have work : s'.work = .flying f p := by
      cases at_ : s'.work <;> simp_all [Work.flight?]
    obtain ⟨e, t, leads⟩ := goes_silent found (by simp [Kernel.isReady, work])
      (by simp [Work.emission?, work])
    exact .of_leads (.flies found work) leads
  · rw [x.traffic_landings] at landed
    rw [Kernel.landing?, Option.map_eq_none_iff, List.find?_eq_none] at aloft
    exact absurd (aloft _ landed) (by simp)

/-- A loop that is in the middle of a request goes on, unless it has no room for a reply. What it
waits for goes on before. -/
theorem busy_furthers (roomy : 0 < config.capacity) (going : x.teardown ≠ .gone)
    (busy : (x.kernel.lane c).busy = true) : x.IsMuted c ∨ x.CanFurther c := by
  obtain ⟨arrived, _, loop⟩ := regular.loops going c
  obtain ⟨i, s, r, sent, found, own, serves⟩ := loop.busy_strand busy
  have member := List.mem_of_getElem? found
  cases sends : s.work.emission? with
  | none =>
    refine Or.inr ?_
    cases ready : x.kernel.isReady s with
    | true =>
      obtain ⟨e, t, leads⟩ := goes_silent found ready sends
      exact .of_leads (.goes found own) leads
    | false =>
      unfold Kernel.isReady at ready
      split at ready
      · rename_i f next waits
        exact regular.flight_goes going member waits (by simpa using ready)
      · cases ready
  | some em =>
    cases offered : x.node.offer? em with
    | some n =>
      have ready : x.kernel.isReady s = true := by
        unfold Kernel.isReady
        split
        · rename_i waits
          rw [waits] at sends
          cases sends
        · rfl
      have attended : x.exchange.deserted = false := by
        by_contra deserted
        have gone := regular.deserted (by simpa using deserted) c
        cases ((regular.lanes c).idle gone).symm.trans busy
      have moved : x.Leads (.happens (.move (.go i))) _ _ := .moves (n := n)
        (by simp [admits, found, ready])
        (by simp [Kernel.emission?, found, sends, Exchange.give?, attended, offered])
      exact Or.inr (.of_leads (.goes found own) moved)
    | none =>
      -- For a broadcast there is room once the pump has taken a turn.
      rcases serves.sends sends with here | everyone
      · exact Or.inl ⟨s, member, own, em, sends, here, offered⟩
      · obtain ⟨_, full⟩ := ConnectedKernel.offer_eq_none.mp offered
        rw [everyone] at full
        obtain ⟨e, t, leads⟩ :=
          regular.turn_of_waiting (regular.waiting_of_full roomy full) (by simp)
        exact Or.inr (.of_leads .broadcasts leads)

omit regular in
/-- A loop that does nothing begins the request that waits for it, or ends. -/
theorem idle_furthers (idle : x.kernel.isIdle c = true)
    (waiting : (x.node.router c).inbound.items ≠ []) : x.CanFurther c := by
  cases stopping : x.kernel.stopping with
  | true => exact .of_leads .polls (.ends idle stopping)
  | false =>
    obtain ⟨r, rest, items⟩ := List.exists_cons_of_ne_nil waiting
    have took : (x.node.router c).take? = some (r, { x.node.router c with
        inbound := { (x.node.router c).inbound with items := rest } }) := by
      simp [Router.take?, Queue.pop?, items]
    exact .of_leads .polls (.begins idle stopping took)

/-- When the kernel is torn down, nothing is pending. -/
theorem going_of_pending (pending : x.Pending c) : x.teardown ≠ .gone := by
  intro gone
  have ended := regular.left gone c
  have closed := regular.shut (by simp [gone]) (by simp [gone]) (.replies c)
  rcases pending with held | inbound | busy | replies
  · exact held (regular.settled c (by simp [closed]))
  · exact inbound ((regular.desks c).emptied ended)
  · cases ((regular.lanes c).idle ended).symm.trans busy
  · exact replies ((regular.pumps (.replies c)).1.emptied closed)

/-- Unless the channel is jammed, something can be done about what is pending on it. -/
theorem pending_furthers (roomy : 0 < config.capacity) (pending : x.Pending c) :
    x.Jammed c ∨ x.CanFurther c := by
  have going := regular.going_of_pending pending
  have idle (unheld : (x.kernel.lane c).busy = false)
      (unended : (x.kernel.lane c).ended = false) := Kernel.isIdle_iff.mpr ⟨unheld, unended⟩
  cases held : (x.node.router c).held with
  | none =>
    have free : ∀ d, Outlet.replies c = .replies d → (x.node.router d).held = none := by
      rintro d ⟨⟩
      exact held
    have sends (waiting : (x.node.router c).replies.outbound.items ≠ []) : x.CanFurther c := by
      obtain ⟨e, t, leads⟩ := regular.turn_of_waiting (o := .replies c) waiting free
      exact .of_leads .replies leads
    cases busy : (x.kernel.lane c).busy with
    | true =>
      rcases regular.busy_furthers roomy going busy with muted | furthers
      · -- The router is free to send the replies that fill the queue.
        obtain ⟨s, _, _, em, _, here, blocked⟩ := muted
        have full := (ConnectedKernel.offer_eq_none.mp blocked).2
        rw [here] at full
        exact Or.inr (sends (regular.waiting_of_full roomy full))
      · exact Or.inr furthers
    | false =>
      rcases pending with holds | inbound | working | replies
      · exact absurd held holds
      · have unended : (x.kernel.lane c).ended = false := by
          by_contra gone
          exact inbound ((regular.desks c).emptied (by simpa using gone))
        exact Or.inr (idle_furthers (idle busy unended) inbound)
      · cases busy.symm.trans working
      · exact Or.inr (sends replies)
  | some r =>
    cases handed : (x.node.router c).hand? with
    | some router => exact Or.inr (.of_leads .hands (.hands handed))
    | none =>
      have stuck : (x.node.router c).IsStuck := ⟨by simp [held], handed⟩
      cases busy : (x.kernel.lane c).busy with
      | true => exact (regular.busy_furthers roomy going busy).imp_left fun muted => ⟨stuck, muted⟩
      | false =>
        obtain ⟨open_, full⟩ := stuck.full
        have unended : (x.kernel.lane c).ended = false := (regular.desks c).closed ▸ open_
        obtain ⟨_, _, items⟩ := Queue.items_of_full ((regular.desks c).capacity ▸ roomy) full
        exact Or.inr (idle_furthers (idle busy unended) (by simp [items]))

end Regular

namespace Jammed

variable (jammed : x.Jammed c)

include jammed

/-- A channel that is jammed is clogged. -/
theorem clogged (regular : x.Regular config) : x.Clogged c := by
  obtain ⟨s, member, own, _⟩ := jammed.muted
  obtain ⟨arrived, _, loop⟩ := regular.loops (regular.going_of_held jammed.stuck.holds) c
  exact ⟨jammed.stuck, (loop.of_strand member own).1⟩

/-- Whatever happens, a channel that is jammed stays jammed. -/
theorem step (regular : x.Regular config) (m : Motion σ) :
    (x.step m).Jammed c ∧ (x.step m).node.router c = x.node.router c := by
  obtain ⟨s, member, own, em, sends, here, blocked⟩ := jammed.muted
  have clogged := jammed.clogged regular
  by_cases goes : x.LetsGo c m
  · -- The strand of the loop is the one that has to wait.
    obtain ⟨i, s', rfl, found, own', _⟩ := goes
    obtain ⟨arrived, _, loop⟩ := regular.loops (clogged.going regular) c
    obtain ⟨j, there⟩ := List.getElem?_of_mem member
    have same : s'.work = s.work := List.singleton_injective
      ((worksOf_eq loop.one_strand found own').symm.trans (worksOf_eq loop.one_strand there own))
    have waits : x.exchange.step? (.move (.go i)) = none := by
      simp [Exchange.step?, Kernel.emission?, found, same, sends, Exchange.give?, blocked]
    have nothing : x.step? (.happens (.move (.go i))) = none := by
      simp [Deployment.step?, waits]
    rw [step_none nothing]
    exact ⟨jammed, rfl⟩
  · obtain ⟨still, router, strands, _⟩ := clogged.step regular goes
    refine ⟨⟨still.stuck, s, strands s member own (Work.isClosing_of_sends sends), own, em, sends,
      here, ?_⟩, router⟩
    rw [ConnectedKernel.offer_eq_none, here] at blocked ⊢
    simpa only [ConnectedKernel.outlet, router] using blocked

theorem play (regular : x.Regular config) (more : List (Motion σ)) :
    (x.play more).Jammed c ∧ (x.play more).node.router c = x.node.router c := by
  induction more generalizing x with
  | nil => exact ⟨jammed, rfl⟩
  | cons m rest ih =>
    obtain ⟨stays, router⟩ := jammed.step regular m
    obtain ⟨stays', router'⟩ := ih stays (regular.step m)
    exact ⟨stays', router'.trans router⟩

end Jammed

/-- As long as a request or a reply is pending on a channel, its router, its request loop or
something that the loop waits for can take a step, unless the channel is jammed. In a channel that
is jammed both queues are full, and whatever happens, its router and its request loop never take a
step again and the channels never get closed. -/
theorem channels_run_unless_jammed (config : KernelConfig) (backend : Backend σ) (tooling : σ)
    (signer : Signer) (endpoints : Endpoints) (stamps : Nat → Stamp) (ms : List (Motion σ))
    (c : RequestChannel) (roomy : 0 < config.capacity) :
    let x := (opened config backend tooling signer endpoints stamps).play ms
    (x.Pending c → x.Jammed c ∨ x.CanFurther c) ∧
      (x.Jammed c →
        config.capacity ≤ (x.node.router c).inbound.items.length ∧
        config.capacity ≤ (x.node.router c).replies.outbound.items.length ∧
        ∀ more, (x.play more).Jammed c ∧ (x.play more).node.router c = x.node.router c ∧
          ((x.play more).teardown = .awaiting ∨ (x.play more).teardown = .closing)) := by
  intro x
  have regular : x.Regular config :=
    (opened_regular config backend tooling signer endpoints stamps).play ms
  refine ⟨regular.pending_furthers roomy, fun jammed => ⟨?_, ?_, fun more => ?_⟩⟩
  · have full := jammed.stuck.full.2
    simpa [Queue.hasRoom, (regular.desks c).capacity] using full
  · obtain ⟨_, _, _, em, _, here, blocked⟩ := jammed.muted
    have full := (ConnectedKernel.offer_eq_none.mp blocked).2
    rw [here] at full
    have capacity := (regular.pumps (.replies c)).2
    simp only [Queue.hasRoom, capacity, decide_eq_false_iff_not, not_lt] at full
    exact full
  · obtain ⟨stays, router⟩ := jammed.play regular more
    have later := regular.play more
    exact ⟨stays, router, ((stays.clogged later).early later).2⟩

/-- A front-end asks what kernel it is. -/
def asksForInfo : Message := .asking "kernel_info_request" []

theorem asksForInfo_read : Router.decode .unsigned (asksForInfo.encode .unsigned) =
    .ok ⟨[], asksForInfo.header, [], .kernelInfo⟩ :=
  Router.decode_asking ⟨⟨.nil, trivial⟩, trivial, by decide⟩ rfl

/-- Where there is room for one message only, a request that has arrived can be begun. -/
theorem narrow_channel_runs :
    let x := narrow.play (arriving .control asksForInfo)
    x.Pending .control ∧ x.CanFurther .control := by
  intro x
  have reached : x = _ := play_arriving asksForInfo_read (by decide +kernel) (by decide +kernel)
  have waits : (x.node.router .control).inbound.items.isEmpty = false := by
    rw [reached]
    decide +kernel
  have free : (x.node.router .control).held.isSome = false := by
    rw [reached]
    decide +kernel
  have pending : x.Pending .control := Or.inr (Or.inl fun empty => by simp [empty] at waits)
  have unjammed : ¬x.Jammed .control := fun jammed =>
    Bool.false_ne_true (free.symm.trans jammed.stuck.1)
  have runs : x.Jammed .control ∨ x.CanFurther .control := (channels_run_unless_jammed
    { KernelConfig.standard with capacity := 1 } Script.backend {} .unsigned _ _
    (arriving .control asksForInfo) .control Nat.zero_lt_one).1 pending
  exact ⟨pending, runs.resolve_left unjammed⟩

/-! ## Four requests jam a channel -/

/-- The control loop replies to a request. -/
def controlReplies : List (Motion Script) :=
  .poll .control :: goes 1 0 ++ .happens (.turn .broadcasts) :: goes 2 0 ++
    .happens (.turn .broadcasts) :: goes 1 0

/-- The router reads four requests before it sends a reply. -/
def fourRequests : List (Motion Script) :=
  arriving .control asksForInfo ++ controlReplies ++ arriving .control asksForInfo ++
    .poll .control :: goes 1 0 ++ arriving .control asksForInfo ++ arriving .control asksForInfo

/-- Four requests that need no tooling jam a channel for good: the router waits for room for the
fourth, and the loop for room for the reply to the second. -/
theorem four_requests_jam :
    let x := narrow.play fourRequests
    x.Jammed .control ∧ x.Pending .control ∧ x.kernel.verdicts.length = 1 ∧
      ∀ more, (x.play more).Jammed .control ∧
        (x.play more).node.router .control = x.node.router .control := by
  intro x
  let r : Request := ⟨[], asksForInfo.header, [], .kernelInfo⟩
  let first := (narrow.holding .control r).step (.happens (.hand .control))
  let second :=
    ((first.play controlReplies).holding .control r).step (.happens (.hand .control))
  let begun := second.play (.poll .control :: goes 1 0)
  let third := (begun.holding .control r).step (.happens (.hand .control))
  have reached : x = (third.holding .control r).step (.happens (.hand .control)) := by
    simp only [x, fourRequests, play_append]
    rw [play_arriving (x := narrow) asksForInfo_read (by decide +kernel) (by decide +kernel),
      play_arriving (x := first.play controlReplies) asksForInfo_read (by decide +kernel)
        (by decide +kernel),
      play_arriving (x := begun) asksForInfo_read (by decide +kernel) (by decide +kernel),
      play_arriving (x := third) asksForInfo_read (by decide +kernel) (by decide +kernel)]
  have jammed : x.Jammed .control := by
    have held : (x.node.router .control).held.isSome = true := by
      rw [reached]
      decide +kernel
    have full : (x.node.router .control).hand?.isNone = true := by
      rw [reached]
      decide +kernel
    have muted : (x.kernel.strands.any fun s => s.loop == some .control &&
        s.work.emission?.any fun e =>
          decide (e.outlet = .replies .control) && (x.node.offer? e).isNone) = true := by
      rw [reached]
      decide +kernel
    refine ⟨⟨held, Option.isNone_iff_eq_none.mp full⟩, ?_⟩
    obtain ⟨s, member, waits⟩ := List.any_eq_true.mp muted
    simp only [Bool.and_eq_true, beq_iff_eq, Option.any_eq_true, decide_eq_true_eq,
      Option.isNone_iff_eq_none] at waits
    obtain ⟨own, e, sends, here, blocked⟩ := waits
    exact ⟨s, member, own, e, sends, here, blocked⟩
  have served : x.kernel.verdicts.length = 1 := by
    rw [reached]
    decide +kernel
  have regular : x.Regular { KernelConfig.standard with capacity := 1 } :=
    (opened_regular _ Script.backend {} .unsigned _ _).play _
  exact ⟨jammed, Or.inl jammed.stuck.holds, served,
    fun more => jammed.play regular more⟩

end Deployment

end NotebookKernel
