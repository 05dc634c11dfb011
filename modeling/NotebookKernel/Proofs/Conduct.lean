import NotebookKernel.Proofs.Delivery
import NotebookKernel.Proofs.RequestLoops

/-!
# Connected kernels

A connected kernel handles a message in one go: the request is served until nobody waits for it,
and then the pumps send what was said. An exchange takes all these steps one at a time. So whatever
a connected kernel goes through is one of the things that an exchange may go through, and all that
its kernel has emitted has been sent.
-/

namespace NotebookKernel

namespace Publisher

variable {p : Publisher}

/-- The pump serves, and nothing waits in its queue, which has room. -/
structure Clear (p : Publisher) : Prop where
  serving : p.phase = .serving
  empty : p.outbound.items = []
  opened : p.outbound.closed = false
  room : 0 < p.outbound.capacity

theorem new_clear {capacity : Nat} (room : 0 < capacity) : (new capacity).Clear :=
  ⟨rfl, rfl, rfl, room⟩

/-- A message has gone through. -/
def passed (p : Publisher) (m : Message) : Publisher := { p with sent := p.sent ++ [m] }

theorem Clear.passed (clear : p.Clear) (m : Message) : (p.passed m).Clear :=
  ⟨clear.serving, clear.empty, clear.opened, clear.room⟩

theorem Clear.passes (clear : p.Clear) (m : Message) :
    ∃ q, p.enqueue? m = some q ∧ q.send? = some (p.passed m) := by
  obtain ⟨phase, ⟨items, capacity, closed⟩, sent⟩ := p
  obtain ⟨rfl, rfl, rfl, room⟩ := clear
  refine ⟨⟨.serving, ⟨[m], capacity, false⟩, sent⟩, ?_, rfl⟩
  have room : 0 < capacity := room
  simp [enqueue?, Queue.push?, Queue.hasRoom, room]

/-- The socket is closed, and what was sent is what had been sent. -/
theorem Clear.closes (clear : p.Clear) :
    (∃ q, p.drain? = some q ∧ q.turn? = some p.shut) ∧ p.shut.phase = .closed ∧
      p.shut.sent = p.sent := by
  obtain ⟨phase, ⟨items, capacity, closed⟩, sent⟩ := p
  obtain ⟨rfl, rfl, rfl, room⟩ := clear
  exact ⟨⟨_, rfl, rfl⟩, rfl, rfl⟩

end Publisher

namespace Router

variable {r : Router}

/-- The router serves, and holds no message and no request. -/
structure Clear (r : Router) : Prop where
  replies : r.replies.Clear
  held : r.held = none
  empty : r.inbound.items = []
  opened : r.inbound.closed = false
  room : 0 < r.inbound.capacity

theorem new_clear {capacity : Nat} (room : 0 < capacity) : (new capacity).Clear :=
  ⟨Publisher.new_clear room, rfl, rfl, rfl, room⟩

theorem Clear.passed (clear : r.Clear) (m : Message) :
    { r with replies := r.replies.passed m }.Clear :=
  ⟨clear.replies.passed m, clear.held, clear.empty, clear.opened, clear.room⟩

theorem Clear.passes (clear : r.Clear) (m : Message) :
    ∃ q, r.enqueue? m = some q ∧ q.send? = some { r with replies := r.replies.passed m } := by
  obtain ⟨p, pushed, sent⟩ := clear.replies.passes m
  refine ⟨{ r with replies := p }, ?_, ?_⟩
  · rw [enqueue?, pushed]
    rfl
  · simp [send?, clear.held, sent]

theorem Clear.closes (clear : r.Clear) :
    (∃ q, r.drain? = some q ∧ q.turn? = some r.shut) ∧ r.shut.replies = r.replies.shut := by
  obtain ⟨⟨phase, ⟨items, capacity, closed⟩, sent⟩, inbound, held⟩ := r
  obtain ⟨⟨rfl, rfl, rfl, room⟩, rfl, _⟩ := clear
  exact ⟨⟨_, rfl, rfl⟩, rfl⟩

/-- A message is no request. -/
theorem Clear.drops (clear : r.Clear) {signer : Signer} {frames : List Bytes} {e : ProtocolError}
    (unread : decode signer frames = .error e) : r.receive? signer frames = some r := by
  simp [receive?, isFree, clear.held, clear.replies.serving, unread]

/-- A message is a request, which goes to the loop. -/
theorem Clear.delivers (clear : r.Clear) {signer : Signer} {frames : List Bytes}
    {request : Request} (read : decode signer frames = .ok request) :
    ∃ q q', r.receive? signer frames = some q ∧ q.hand? = some q' ∧
      q'.take? = some (request, r) := by
  obtain ⟨replies, ⟨items, capacity, closed⟩, held⟩ := r
  obtain ⟨clear, rfl, rfl, rfl, room⟩ := clear
  have serving : replies.phase = .serving := clear.serving
  have room : 0 < capacity := room
  refine ⟨⟨replies, ⟨[], capacity, false⟩, some request⟩,
    ⟨replies, ⟨[request], capacity, false⟩, none⟩, ?_, ?_, rfl⟩
  · simp [receive?, isFree, serving, read]
  · simp [hand?, Queue.push?, Queue.hasRoom, room]

end Router

namespace ConnectedKernel

variable {σ : Type} {n : ConnectedKernel σ}

@[simp] theorem withRouter_withRouter (n : ConnectedKernel σ) (c : RequestChannel) (r r' : Router) :
    (n.withRouter c r).withRouter c r' = n.withRouter c r' := by cases c <;> rfl

@[simp] theorem withRouter_self (n : ConnectedKernel σ) (c : RequestChannel) :
    n.withRouter c (n.router c) = n := by cases c <;> rfl

/-- What the kernel does changes nothing about how something is sent. -/
theorem emit_kernel (n : ConnectedKernel σ) (k : Kernel σ) (e : Emission) :
    { n with kernel := k }.emit e = { n.emit e with kernel := k } := by
  rcases e with ⟨_ | _⟩ | _ <;> rfl

theorem turn_kernel (n : ConnectedKernel σ) (k : Kernel σ) (o : Outlet) :
    { n with kernel := k }.turn? o = (n.turn? o).map fun n' => { n' with kernel := k } := by
  cases o with
  | replies c =>
    cases turned : (n.router c).turn? <;> cases c <;> simp_all [turn?, router, withRouter]
  | broadcasts => cases turned : n.iopub.turn? <;> simp [turn?, turned]

/-- Nothing waits in any queue. -/
structure Clear (n : ConnectedKernel σ) : Prop where
  routers : ∀ c, (n.router c).Clear
  iopub : n.iopub.Clear

theorem Clear.outlet (clear : n.Clear) : ∀ o, (n.outlet o).Clear
  | .replies c => (clear.routers c).replies
  | .broadcasts => clear.iopub

theorem Clear.with_kernel (clear : n.Clear) (k : Kernel σ) : { n with kernel := k }.Clear where
  routers c := by
    rw [router_kernel]
    exact clear.routers c
  iopub := clear.iopub

/-- The connected kernel when something has gone through one of its outlets. -/
structure Passes (n : ConnectedKernel σ) (e : Emission) (n' : ConnectedKernel σ) : Prop where
  clear : n'.Clear
  sent : ∀ o, (n'.outlet o).sent =
    (n.outlet o).sent ++ if e.outlet = o then [e.message (n.stamps n.stamped)] else []
  stamps : n'.stamps = n.stamps
  stamped : n'.stamped = n.stamped + 1
  kernel : n'.kernel = n.kernel

theorem sent_of_puts {n' : ConnectedKernel σ} {e : Emission} {m : Message} {count : Nat}
    (puts : { n with stamped := count }.Puts n' e.outlet ((n.outlet e.outlet).passed m))
    (o : Outlet) :
    (n'.outlet o).sent = (n.outlet o).sent ++ if e.outlet = o then [m] else [] := by
  by_cases here : e.outlet = o
  · subst here
    rw [puts.there, if_pos rfl]
    rfl
  · rw [puts.elsewhere o (Ne.symm here), outlet_stamped, if_neg here, List.append_nil]

/-- What is emitted is accepted and sent at once. -/
theorem Clear.emits (clear : n.Clear) (e : Emission) :
    (∃ n', n.offer? e = some n' ∧ n'.turn? e.outlet = some (n.emit e)) ∧ n.Passes e (n.emit e) := by
  let n₁ : ConnectedKernel σ := { n with stamped := n.stamped + 1 }
  let m := e.message (n.stamps n.stamped)
  cases e with
  | reply c r p =>
    have router (d : RequestChannel) : n₁.router d = n.router d := router_stamped n d _
    obtain ⟨q, pushed, sent⟩ := (clear.routers c).passes m
    have emitted : n.emit (.reply c r p) =
        n₁.withRouter c { n₁.router c with replies := (n.router c).replies.passed m } := by
      change n₁.withRouter c (taken (taken (n₁.router c) ((n₁.router c).enqueue? m))
        (Router.send? _)) = _
      rw [router, pushed, show taken (n.router c) (some q) = q from rfl, sent]
      rfl
    refine ⟨⟨n₁.withRouter c q, ?_, ?_⟩, ?_⟩
    · change ((n₁.router c).enqueue? m).map (n₁.withRouter c) = _
      rw [router, pushed]
      rfl
    · simp [turn?, Emission.outlet, Router.turn?, sent, emitted, router]
    · rw [emitted]
      refine ⟨⟨fun d => ?_, ?_⟩, sent_of_puts (puts_replies n₁ c _), ?_, ?_, withRouter_kernel ..⟩
      · rw [withRouter_router, router, router]
        split
        · exact (clear.routers c).passed m
        · exact clear.routers d
      · rw [withRouter_iopub]
        exact clear.iopub
      · cases c <;> rfl
      · cases c <;> rfl
  | broadcast r p =>
    obtain ⟨q, pushed, sent⟩ := clear.iopub.passes m
    have emitted : n.emit (.broadcast r p) = { n₁ with iopub := n.iopub.passed m } := by
      change { n₁ with iopub := taken (taken n.iopub (n.iopub.enqueue? m)) (Publisher.send? _) } = _
      rw [pushed, show taken n.iopub (some q) = q from rfl, sent]
      rfl
    refine ⟨⟨{ n₁ with iopub := q }, ?_, ?_⟩, ?_⟩
    · change (n.iopub.enqueue? m).map (fun p => { n₁ with iopub := p }) = _
      rw [pushed]
      rfl
    · simp [turn?, Emission.outlet, Publisher.turn?, sent, emitted]
    · rw [emitted]
      refine ⟨⟨fun d => ?_, clear.iopub.passed m⟩, sent_of_puts (puts_broadcasts n₁ _), rfl, rfl,
        rfl⟩
      cases d
      · exact clear.routers .shell
      · exact clear.routers .control

/-- All that the kernel has emitted has been sent through its outlets in the order in which it was
emitted, each message with the next identifier and date. -/
structure Sent (n : ConnectedKernel σ) : Prop where
  counted : n.stamped = n.kernel.emitted.length
  sent : ∀ o, (n.outlet o).sent = (n.kernel.emitted.zipIdx.filter fun x => x.1.outlet = o).map
    fun x => x.1.message (n.stamps x.2)

/-- Sending something after the other. -/
theorem Clear.emits_all (clear : n.Clear) (es : List Emission) :
    let n' := es.foldl emit n
    n'.Clear ∧ n'.stamps = n.stamps ∧ n'.stamped = n.stamped + es.length ∧ n'.kernel = n.kernel ∧
      ∀ o, (n'.outlet o).sent = (n.outlet o).sent ++
        ((es.zipIdx n.stamped).filter fun x => x.1.outlet = o).map
          fun x => x.1.message (n.stamps x.2) := by
  induction es generalizing n with
  | nil => exact ⟨clear, rfl, rfl, rfl, fun o => by simp⟩
  | cons e rest ih =>
    have passes := (clear.emits e).2
    obtain ⟨clear', stamps, stamped, kernel, sent⟩ := ih passes.clear
    refine ⟨clear', stamps.trans passes.stamps, ?_, kernel.trans passes.kernel, fun o => ?_⟩
    · rw [List.foldl_cons, stamped, passes.stamped, List.length_cons]
      omega
    · rw [List.foldl_cons, sent, passes.sent, passes.stamps, passes.stamped, List.zipIdx_cons,
        List.filter_cons, List.append_assoc]
      by_cases here : e.outlet = o <;> simp [here]

theorem foldl_emit_kernel (n : ConnectedKernel σ) (k : Kernel σ) (es : List Emission) :
    es.foldl emit { n with kernel := k } = { es.foldl emit n with kernel := k } := by
  induction es generalizing n with
  | nil => rfl
  | cons e rest ih => rw [List.foldl_cons, List.foldl_cons, emit_kernel, ih]

/-- What the kernel has emitted in the meantime is sent by the pumps. -/
theorem pump_eq {k : Kernel σ} {es : List Emission}
    (emitted : k.emitted = n.kernel.emitted ++ es) :
    { n with kernel := k }.pump n.kernel.emitted.length = { es.foldl emit n with kernel := k } := by
  rw [pump, emitted, List.drop_left, foldl_emit_kernel]

theorem Sent.pumped (h : n.Sent) (clear : n.Clear) {k : Kernel σ} {es : List Emission}
    (emitted : k.emitted = n.kernel.emitted ++ es) :
    { es.foldl emit n with kernel := k }.Sent := by
  obtain ⟨_, stamps, stamped, _, sent⟩ := clear.emits_all es
  refine ⟨?_, fun o => ?_⟩
  · simp [stamped, h.counted, emitted]
  · rw [outlet_kernel, sent, h.sent]
    simp [stamps, emitted, List.zipIdx_append, h.counted]

end ConnectedKernel

/-- A loop of which nothing is asked can only end. -/
theorem Loop.unasked {c : RequestChannel} {l : Lane} {works : List Work} {es : List Event}
    (h : Loop c [] l works es) : ∀ e ∈ es, e = .closed c := by
  generalize same : [] = arrived at h
  cases h with
  | free handled queue proper =>
    obtain ⟨none, _⟩ := List.append_eq_nil_iff.mp same.symm
    obtain rfl := List.map_eq_nil_iff.mp none
    simp
  | serving handled r sent w queue proper serves => simp at same
  | ended handled forgotten proper =>
    obtain ⟨none, _⟩ := List.append_eq_nil_iff.mp same.symm
    obtain rfl := List.map_eq_nil_iff.mp none
    simp

namespace Kernel

variable {σ : Type}

/-- What a schedule sends. -/
def emissions (k : Kernel σ) : List (Move σ) → List Emission
  | [] => []
  | m :: moves => (k.emission? m).toList ++ (k.move m).emissions moves

theorem play_emitted (k : Kernel σ) (moves : List (Move σ)) :
    (k.play moves).emitted = k.emitted ++ k.emissions moves := by
  induction moves generalizing k with
  | nil => simp [emissions]
  | cons m rest ih => rw [play_cons, ih, move_emitted, emissions, List.append_assoc]

/-- A kernel that nothing is asked of sends nothing. -/
theorem unasked_silent (config : KernelConfig) (backend : Backend σ) (tooling : σ)
    (obedient : Bool) (moves : List (Move σ)) (unasked : ∀ c, arrivals c moves = []) :
    ((new config backend tooling obedient).play moves).emitted = [] := by
  let k := (new config backend tooling obedient).play moves
  refine List.filterMap_eq_nil_iff.mpr fun e written => ?_
  cases e with
  | sent loop e =>
    cases loop with
    | none => exact ((play_heeds config backend tooling obedient moves).attributed e written).elim
    | some c =>
      have loop : k.LoopIs c [] [] := unasked c ▸ play_loop config backend tooling obedient moves c
      have said : .sent (some c) e ∈ k.past c :=
        List.mem_filter.mpr ⟨written, by simp [Event.loop?]⟩
      cases loop.unasked _ said
  | _ => rfl

/-- A request that arrives is served in some moves. -/
theorem submit_plays (k : Kernel σ) (c : RequestChannel) (r : Request) :
    ∃ moves, (k.submit c r).2.settle = (k.enqueue c r).play moves := by
  unfold submit
  by_cases ended : (k.lane c).ended = true
  · obtain ⟨moves, played, _⟩ := k.settle_plays
    exact ⟨moves, by simpa [ended, enqueue] using played⟩
  · obtain ⟨moves, played, _⟩ := (k.enqueue c r).feed.settle_plays
    refine ⟨.look .control :: .look .shell :: moves, ?_⟩
    rw [if_neg ended]
    exact played

end Kernel

namespace ConnectedKernel

variable {σ : Type} {n : ConnectedKernel σ} {c : RequestChannel} {frames : List Bytes}

/-- A message that is no request changes nothing. -/
theorem Clear.receive_unread (clear : n.Clear) {e : ProtocolError}
    (unread : Router.decode n.signer frames = .error e) : n.receive c frames = n := by
  have dropped := (clear.routers c).drops unread
  have nothing : (n.router c).hand? = none := by simp [Router.hand?, (clear.routers c).held]
  have still : (n.router c).take? = none := by
    simp [Router.take?, Queue.pop?, (clear.routers c).empty]
  simp [receive, dropped, taken, nothing, serve, still]

/-- A request is served, and what was said is sent. -/
theorem Clear.receive_read (clear : n.Clear) {request : Request}
    (read : Router.decode n.signer frames = .ok request) :
    n.receive c frames =
      { n with kernel := (n.kernel.submit c request).2.settle }.pump n.kernel.emitted.length := by
  obtain ⟨q, q', received, handed, took⟩ := (clear.routers c).delivers read
  simp only [receive, received, taken, Option.getD_some, handed, serve, withRouter_router, if_true,
    took, withRouter_kernel]
  cases c <;> rfl

/-- Many messages arrive, one after the other. -/
def receiveAll (n : ConnectedKernel σ) (arrived : List (RequestChannel × List Bytes)) :
    ConnectedKernel σ := arrived.foldl (fun n a => n.receive a.1 a.2) n

end ConnectedKernel

/-! ## Step by step -/

namespace Exchange

variable {σ : Type} {x : Exchange σ} {n n' : ConnectedKernel σ}

/-- The exchange can come to this connected kernel. -/
def Leads (x : Exchange σ) (n : ConnectedKernel σ) : Prop := ∃ hs, x.play hs = x.withNode n

namespace Leads

theorem here (x : Exchange σ) : x.Leads x.node := ⟨[], rfl⟩

theorem trans (h : x.Leads n) (h' : (x.withNode n).Leads n') : x.Leads n' := by
  obtain ⟨first, led⟩ := h
  obtain ⟨second, led'⟩ := h'
  refine ⟨first ++ second, ?_⟩
  rw [play_append, led, led']
  rfl

theorem of_step {h : Happening σ} (stepped : x.step? h = some (x.withNode n)) : x.Leads n :=
  ⟨[h], step_some stepped⟩

/-- The kernel makes a move, and what it sends is sent by the pump. -/
theorem move (present : x.deserted = false) (clear : x.node.Clear) (m : Move σ) :
    x.Leads { (x.node.kernel.emission? m).toList.foldl ConnectedKernel.emit x.node with
      kernel := x.node.kernel.move m } := by
  cases sends : x.node.kernel.emission? m with
  | none =>
    refine of_step (h := .move m) ?_
    simp only [step?, sends]
    rfl
  | some e =>
    obtain ⟨⟨n, offered, turned⟩, _⟩ := clear.emits e
    have moved : x.step? (.move m) =
        some (x.withNode { n with kernel := x.node.kernel.move m }) := by
      simp [step?, sends, give?, present, offered]
    refine (of_step moved).trans (of_step (h := .turn e.outlet) ?_)
    simp only [step?, withNode_node, ConnectedKernel.turn_kernel, turned]
    rfl

/-- The kernel makes moves, and what it sends is sent by the pumps. -/
theorem play (present : x.deserted = false) (clear : x.node.Clear) (moves : List (Move σ)) :
    x.Leads { (x.node.kernel.emissions moves).foldl ConnectedKernel.emit x.node with
      kernel := x.node.kernel.play moves } := by
  induction moves generalizing x with
  | nil => exact here x
  | cons m rest ih =>
    let es := (x.node.kernel.emission? m).toList
    have clear' : (es.foldl ConnectedKernel.emit x.node).Clear := (clear.emits_all es).1
    have first := move present clear m
    refine first.trans ?_
    have later := @ih (x.withNode { es.foldl ConnectedKernel.emit x.node with
      kernel := x.node.kernel.move m }) present (clear'.with_kernel _)
    simpa [Kernel.emissions, ConnectedKernel.foldl_emit_kernel, es] using later

/-- A message arrives, and is answered. -/
theorem receive (present : x.deserted = false) (clear : x.node.Clear) (sent : x.node.Sent)
    (c : RequestChannel) (frames : List Bytes) :
    let n := x.node.receive c frames
    x.Leads n ∧ n.Clear ∧ n.Sent := by
  intro n
  cases read : Router.decode x.node.signer frames with
  | error e =>
    have same : n = x.node := clear.receive_unread read
    rw [same]
    exact ⟨here x, clear, sent⟩
  | ok request =>
    let k := x.node.kernel.enqueue c request
    obtain ⟨moves, played⟩ := x.node.kernel.submit_plays c request
    let es := k.emissions moves
    have emitted : (k.play moves).emitted = x.node.kernel.emitted ++ es := by
      rw [Kernel.play_emitted, Kernel.enqueue_emitted]
    have same : n = { es.foldl ConnectedKernel.emit x.node with kernel := k.play moves } := by
      rw [← ConnectedKernel.pump_eq emitted, ← played]
      exact clear.receive_read read
    have clear' : (es.foldl ConnectedKernel.emit x.node).Clear := (clear.emits_all es).1
    refine ⟨?_, same ▸ clear'.with_kernel _, same ▸ sent.pumped clear emitted⟩
    have taken : x.Leads { x.node with kernel := k } := by
      obtain ⟨q, q', received, handed, took⟩ := (clear.routers c).delivers read
      have first : x.Leads (x.node.withRouter c q) :=
        of_step (h := .receive c frames) (by simp only [step?, received]; rfl)
      refine first.trans (trans (n := x.node.withRouter c q') ?_ ?_)
      · refine of_step (h := .hand c) ?_
        simp [step?, handed, Exchange.withRouter]
      · refine of_step (h := .take c) ?_
        simp [step?, took, k]
    have served := play (x := x.withNode { x.node with kernel := k }) present (clear.with_kernel k)
      moves
    rw [withNode_node, ConnectedKernel.foldl_emit_kernel] at served
    exact same ▸ taken.trans served

theorem receiveAll (present : x.deserted = false) (clear : x.node.Clear) (sent : x.node.Sent)
    (arrived : List (RequestChannel × List Bytes)) :
    let n := x.node.receiveAll arrived
    x.Leads n ∧ n.Clear ∧ n.Sent := by
  induction arrived generalizing x with
  | nil => exact ⟨here x, clear, sent⟩
  | cons a rest ih =>
    obtain ⟨first, clear', sent'⟩ := receive present clear sent a.1 a.2
    obtain ⟨later, ends⟩ := @ih (x.withNode (x.node.receive a.1 a.2)) present clear' sent'
    exact ⟨first.trans later, ends⟩

/-- The router notices that it has to close, and closes its socket. -/
theorem shut_router (closing : x.closing = true) {c : RequestChannel}
    (clear : (x.node.router c).Clear) :
    x.Leads (x.node.withRouter c (x.node.router c).shut) := by
  obtain ⟨⟨q, drained, turned⟩, _⟩ := clear.closes
  have noticed : x.step? (.notice (.replies c)) = some (x.withNode (x.node.withRouter c q)) := by
    simp [step?, mustClose, closing, ConnectedKernel.drain?, drained]
  refine (of_step noticed).trans (of_step (h := .turn (.replies c)) ?_)
  simp [step?, ConnectedKernel.turn?, turned]

/-- The publisher notices that it has to close, and closes its socket. -/
theorem shut_iopub (closing : x.closing = true) (clear : x.node.iopub.Clear) :
    x.Leads { x.node with iopub := x.node.iopub.shut } := by
  obtain ⟨⟨q, drained, turned⟩, _⟩ := clear.closes
  have noticed : x.step? (.notice .broadcasts) =
      some (x.withNode { x.node with iopub := q }) := by
    simp [step?, mustClose, closing, ConnectedKernel.drain?, drained]
  refine (of_step noticed).trans (of_step (h := .turn .broadcasts) ?_)
  simp [step?, ConnectedKernel.turn?, turned]

theorem closeChannels (closing : x.closing = true) (clear : x.node.Clear) :
    x.Leads x.node.closeChannels := by
  let n := x.node.withRouter .shell (x.node.router .shell).shut
  have first : x.Leads n := shut_router closing (clear.routers .shell)
  have second : (x.withNode n).Leads (n.withRouter .control (n.router .control).shut) :=
    shut_router (x := x.withNode n) closing (clear.routers .control)
  refine (first.trans second).trans ?_
  exact shut_iopub (x := x.withNode (n.withRouter .control (n.router .control).shut)) closing
    clear.iopub

end Leads

end Exchange

namespace ConnectedKernel

variable {σ : Type}

theorem Clear.closeChannels {n : ConnectedKernel σ} (clear : n.Clear) (o : Outlet) :
    (n.closeChannels.outlet o).phase = .closed ∧
      (n.closeChannels.outlet o).sent = (n.outlet o).sent := by
  have shut : n.closeChannels.outlet o = (n.outlet o).shut := by
    rcases o with ⟨_ | _⟩ | _
    · exact (clear.routers .shell).closes.2
    · exact (clear.routers .control).closes.2
    · rfl
  rw [shut]
  exact (clear.outlet o).closes.2

/-- At first nothing waits. -/
theorem opened_clear {config : KernelConfig} {backend : Backend σ} {tooling : σ} {obedient : Bool}
    {signer : Signer} {endpoints : Endpoints} {stamps : Nat → Stamp} (room : 0 < config.capacity) :
    (Exchange.opened config backend tooling obedient signer endpoints stamps).node.Clear := by
  refine ⟨fun c => ?_, Publisher.new_clear room⟩
  cases c <;> exact Router.new_clear room

/-- A kernel that starts has its channels bound and its tooling begun. -/
theorem start_eq {config : KernelConfig} {connection : ConnectionInfo} {used : InUse}
    {backend : Backend σ} {tooling : σ} {stamps : Nat → Stamp} {n : ConnectedKernel σ}
    (started : (start config connection used backend tooling stamps).1 = .ok n) :
    n = { (Exchange.opened config backend tooling true n.signer n.endpoints stamps).node with
      kernel := ((Kernel.new config backend tooling true).restart 0).settle } := by
  unfold start at started
  split at started
  · cases started
  · split at started
    · cases started
    · cases started
      rfl

/-- A connected kernel that has been started, may be sent any messages. What it goes through is
what an exchange may go through, also when its channels are closed in the end. All that its kernel
has emitted has been sent, in the order in which it was emitted. -/
theorem started_conducts (config : KernelConfig) (connection : ConnectionInfo) (used : InUse)
    (backend : Backend σ) (tooling : σ) (stamps : Nat → Stamp) (n : ConnectedKernel σ)
    (started : (start config connection used backend tooling stamps).1 = .ok n)
    (room : 0 < config.capacity) (arrived : List (RequestChannel × List Bytes)) :
    let m := n.receiveAll arrived
    let x := Exchange.opened config backend tooling true n.signer n.endpoints stamps
    (∃ hs, x.play hs = ⟨m, false, false⟩) ∧ (∃ hs, x.play hs = ⟨m.closeChannels, true, false⟩) ∧
      ∀ o, (m.outlet o).outbound.items = [] ∧
        (m.outlet o).sent = (m.kernel.emitted.zipIdx.filter fun x => x.1.outlet = o).map
          (fun x => x.1.message (m.stamps x.2)) ∧
        (m.closeChannels.outlet o).phase = .closed ∧
        (m.closeChannels.outlet o).sent = (m.outlet o).sent := by
  intro m x
  have clear : x.node.Clear := opened_clear room
  have sent : x.node.Sent := by
    refine ⟨rfl, fun o => ?_⟩
    rw [Exchange.opened_outlet]
    rfl
  -- nothing is emitted before the first message arrives
  obtain ⟨moves, settled, silent⟩ :=
    ((Kernel.new config backend tooling true).restart 0).settle_plays
  have begun : n = { x.node with kernel := x.node.kernel.play (.restart 0 :: moves) } := by
    have played : ((Kernel.new config backend tooling true).restart 0).settle =
        x.node.kernel.play (.restart 0 :: moves) := settled
    rw [← played]
    exact start_eq started
  have emitted : x.node.kernel.emissions (.restart 0 :: moves) = [] := by
    have none := Kernel.unasked_silent config backend tooling true (.restart 0 :: moves) silent
    rw [Kernel.play_emitted] at none
    exact (List.append_eq_nil_iff.mp none).2
  have led : x.Leads n := by
    have led := Exchange.Leads.play (x := x) rfl clear (.restart 0 :: moves)
    rwa [emitted, List.foldl_nil, ← begun] at led
  have sent' : n.Sent := by
    have none := Kernel.play_emitted x.node.kernel (.restart 0 :: moves)
    rw [emitted] at none
    exact begun ▸ sent.pumped clear none
  have clear' : n.Clear := begun ▸ clear.with_kernel _
  obtain ⟨later, clear'', sent''⟩ :=
    Exchange.Leads.receiveAll (x := x.withNode n) rfl clear' sent' arrived
  obtain ⟨hs, played⟩ : x.Leads m := led.trans later
  obtain ⟨hs', closed⟩ := Exchange.Leads.closeChannels (x := ⟨m, true, false⟩) rfl clear''
  refine ⟨⟨hs, played⟩, ⟨hs ++ .close :: hs', ?_⟩, fun o => ?_⟩
  · rw [Exchange.play_append, played]
    exact closed
  · exact ⟨(clear''.outlet o).empty, sent''.sent o, clear''.closeChannels o⟩

end ConnectedKernel

end NotebookKernel
