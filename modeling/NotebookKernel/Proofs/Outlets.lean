import NotebookKernel.Kernel.Connected

/-!
# Outlets

A kernel sends its messages through three outlets, each with a queue and a pump. A step does one of
four things to an outlet: nothing, to put a message into its queue, a turn of its pump, or to have
the pump notice that it has to close. What was sent and what waits is what was accepted.
-/

namespace NotebookKernel

/-- Where messages leave the kernel: a queue and the pump that sends what is in it. -/
inductive Outlet where
  | replies (c : RequestChannel)
  | broadcasts
  deriving DecidableEq

/-- The outlet in whose queue it waits. -/
def Emission.outlet : Emission → Outlet
  | reply c _ _ => .replies c
  | broadcast _ _ => .broadcasts

namespace Publisher

/-- Is there room for a message, and may it still come? -/
def admits (p : Publisher) : Bool := !p.outbound.closed && p.outbound.hasRoom

/-- The pump takes a turn: it sends the first message, or closes its socket when all is sent. -/
def turn? (p : Publisher) : Option Publisher := p.send? <|> p.close?

/-- What a step may do to the pump of an outlet and its queue, with what is accepted. -/
inductive Changes : Publisher → List Message → Publisher → Prop
  | stays (p : Publisher) : Changes p [] p
  | accepts {p : Publisher} {q : Queue Message} (m : Message) (free : p.admits = true)
      (pushed : p.outbound.push? m = some q) : Changes p [m] { p with outbound := q }
  | turns {p q : Publisher} (turn : p.turn? = some q) : Changes p [] q
  | drains {p q : Publisher} (drain : p.drain? = some q) : Changes p [] q

/-- What many steps may do to it, with all that is accepted. -/
inductive Comes : Publisher → List Message → Publisher → Prop
  | here (p : Publisher) : Comes p [] p
  | next {p q r : Publisher} {ms more : List Message} (first : Changes p ms q)
      (rest : Comes q more r) : Comes p (ms ++ more) r

/-- The queue is open as long as the pump serves, and nothing waits when the socket is closed. -/
structure Sound (p : Publisher) : Prop where
  openly : p.outbound.closed = false ↔ p.phase = .serving
  emptied : p.phase = .closed → p.outbound.items = []

theorem new_sound (capacity : Nat) : (new capacity).Sound := ⟨by simp [new, Queue.new], nofun⟩

section

variable {p q r : Publisher} {ms : List Message}

/-- A turn sends the first message or closes the socket. -/
theorem turn_cases (turn : p.turn? = some q) :
    (p.phase ≠ .closed ∧ ∃ m rest, p.outbound.items = m :: rest ∧
      q = { p with outbound := { p.outbound with items := rest }, sent := p.sent ++ [m] }) ∨
    (p.phase = .draining ∧ p.outbound.items = [] ∧ q = { p with phase := .closed }) := by
  obtain ⟨phase, ⟨items, capacity, closed⟩, sent⟩ := p
  cases items with
  | nil =>
    refine Or.inr ?_
    cases phase <;> simp_all [turn?, send?, close?, Queue.pop?]
  | cons m rest =>
    have sends : phase ≠ .closed ∧ q = ⟨phase, ⟨rest, capacity, closed⟩, sent ++ [m]⟩ := by
      cases phase <;> simp_all [turn?, send?, close?, Queue.pop?]
    exact Or.inl ⟨sends.1, m, rest, rfl, sends.2⟩

theorem drain_cases (drain : p.drain? = some q) :
    p.phase = .serving ∧ q = { p with phase := .draining, outbound := p.outbound.close } := by
  unfold drain? at drain
  split at drain
  · rename_i serving
    cases drain
    exact ⟨serving, rfl⟩
  · cases drain

/-- A queue that admits a message puts it at its end. -/
theorem push_of_admits {m : Message} (free : p.admits = true) :
    p.outbound.push? m = some { p.outbound with items := p.outbound.items ++ [m] } := by
  simp_all [admits, Queue.push?]

/-- A producer gets its message in, or sees that the queue is closed. -/
theorem enqueue_changes {m : Message} (h : p.enqueue? m = some q) :
    p.Changes (if p.admits then [m] else []) q := by
  obtain ⟨outbound, pushed, rfl⟩ := Option.map_eq_some_iff.mp h
  by_cases free : p.admits = true
  · rw [if_pos free]
    exact .accepts m free pushed
  · rw [if_neg free]
    have same : outbound = p.outbound := by
      unfold Queue.push? at pushed
      split at pushed
      · exact (Option.some.inj pushed).symm
      · simp_all [admits]
    rw [same]
    exact .stays p

/-- A producer that need not wait gets its message in as long as the queue is open. -/
theorem admits_of_enqueue {m : Message} (h : p.enqueue? m = some q)
    (opened : p.outbound.closed = false) : p.admits = true := by
  cases room : p.outbound.hasRoom with
  | true => simp [admits, opened, room]
  | false => simp [enqueue?, Queue.push?, opened, room] at h

/-- A producer that has to wait would not get its message in. -/
theorem admits_of_waits {m : Message} (h : p.enqueue? m = none) : p.admits = false := by
  cases closed : p.outbound.closed with
  | true => simp [admits, closed]
  | false =>
    cases room : p.outbound.hasRoom with
    | true => simp [enqueue?, Queue.push?, closed, room] at h
    | false => simp [admits, room]

/-- Putting a message into the queue, if that can be done right now. -/
theorem put_changes (p : Publisher) (m : Message) :
    p.Changes (if p.admits then [m] else []) (taken p (p.enqueue? m)) := by
  cases pushed : p.enqueue? m with
  | some q => exact enqueue_changes pushed
  | none =>
    rw [admits_of_waits pushed]
    exact .stays p

/-- Sending the first message, if there is one. -/
theorem pushed_changes (p : Publisher) : p.Changes [] (taken p p.send?) := by
  cases sent : p.send? with
  | some q => exact .turns (by simp [turn?, sent, taken])
  | none => exact .stays p

theorem Changes.sound (h : p.Changes ms q) (sound : p.Sound) : q.Sound := by
  obtain ⟨openly, emptied⟩ := sound
  cases h with
  | stays => exact ⟨openly, emptied⟩
  | accepts m free pushed =>
    rw [push_of_admits free] at pushed
    cases pushed
    have serving : p.phase = .serving := openly.mp (by simp_all [admits])
    exact ⟨openly, fun closed => by simp [serving] at closed⟩
  | turns turn =>
    rcases turn_cases turn with ⟨going, m, rest, waiting, rfl⟩ | ⟨draining, nothing, rfl⟩
    · exact ⟨openly, fun closed => (going closed).elim⟩
    · exact ⟨by simpa [draining] using openly, fun _ => nothing⟩
  | drains drain =>
    obtain ⟨serving, rfl⟩ := drain_cases drain
    exact ⟨by simp [Queue.close], nofun⟩

/-- What was sent and what waits is what was accepted. -/
theorem Changes.conserves (h : p.Changes ms q) :
    q.sent ++ q.outbound.items = p.sent ++ p.outbound.items ++ ms := by
  cases h with
  | stays => simp
  | accepts m free pushed =>
    rw [push_of_admits free] at pushed
    cases pushed
    simp
  | turns turn =>
    rcases turn_cases turn with ⟨_, m, rest, waiting, rfl⟩ | ⟨_, nothing, rfl⟩
    · simp [waiting]
    · simp
  | drains drain =>
    obtain ⟨_, rfl⟩ := drain_cases drain
    simp [Queue.close]

theorem Changes.sent_prefix (h : p.Changes ms q) : p.sent <+: q.sent := by
  cases h with
  | turns turn =>
    rcases turn_cases turn with ⟨_, m, rest, _, rfl⟩ | ⟨_, _, rfl⟩
    · exact List.prefix_append _ _
    · exact List.prefix_refl _
  | drains drain =>
    obtain ⟨_, rfl⟩ := drain_cases drain
    exact List.prefix_refl _
  | _ => exact List.prefix_refl _

/-- A pump that has stopped serving does not start again, and its queue accepts nothing. -/
theorem Changes.stopped (h : p.Changes ms q) (sound : p.Sound) (stopped : p.phase ≠ .serving) :
    ms = [] ∧ q.phase ≠ .serving ∧ q.outbound.items.length ≤ p.outbound.items.length := by
  cases h with
  | stays => exact ⟨rfl, stopped, Nat.le_refl _⟩
  | accepts m free pushed =>
    exact (stopped (sound.openly.mp (by simp_all [admits]))).elim
  | turns turn =>
    rcases turn_cases turn with ⟨_, m, rest, waiting, rfl⟩ | ⟨_, nothing, rfl⟩
    · exact ⟨rfl, stopped, by simp [waiting]⟩
    · exact ⟨rfl, nofun, Nat.le_refl _⟩
  | drains drain => exact (stopped (drain_cases drain).1).elim

/-- After its socket is closed a pump does nothing more. -/
theorem Changes.closed (h : p.Changes ms q) (sound : p.Sound) (closed : p.phase = .closed) :
    q = p := by
  cases h with
  | stays => rfl
  | accepts m free pushed =>
    have serving : p.phase = .serving := sound.openly.mp (by simp_all [admits])
    simp [serving] at closed
  | turns turn =>
    rcases turn_cases turn with ⟨going, _⟩ | ⟨draining, _⟩
    · exact (going closed).elim
    · simp [draining] at closed
  | drains drain => simp [(drain_cases drain).1] at closed

/-! ### Many steps -/

theorem Comes.sound (h : p.Comes ms q) (sound : p.Sound) : q.Sound := by
  induction h with
  | here => exact sound
  | next first _ ih => exact ih (first.sound sound)

theorem Comes.conserves (h : p.Comes ms q) :
    q.sent ++ q.outbound.items = p.sent ++ p.outbound.items ++ ms := by
  induction h with
  | here => simp
  | next first _ ih => rw [ih, first.conserves, List.append_assoc]

theorem Comes.sent_prefix (h : p.Comes ms q) : p.sent <+: q.sent := by
  induction h with
  | here => exact List.prefix_refl _
  | next first _ ih => exact first.sent_prefix.trans ih

theorem Comes.stopped (h : p.Comes ms q) (sound : p.Sound) (stopped : p.phase ≠ .serving) :
    ms = [] ∧ q.phase ≠ .serving := by
  induction h with
  | here => exact ⟨rfl, stopped⟩
  | next first _ ih =>
    obtain ⟨rfl, still, _⟩ := first.stopped sound stopped
    exact ih (first.sound sound) still

theorem Comes.closed (h : p.Comes ms q) (sound : p.Sound) (closed : p.phase = .closed) :
    q = p := by
  induction h with
  | here => rfl
  | next first _ ih =>
    obtain rfl := first.closed sound closed
    exact ih sound closed

end

end Publisher

/-! ## Steps of the outlets -/

namespace Router

/-- The router takes a turn with the replies, unless it is handing on a request. -/
def turn? (r : Router) : Option Router := r.send? <|> r.close?

theorem turn_eq {r : Router} (free : r.held = none) :
    r.turn? = r.replies.turn?.map fun p => { r with replies := p } := by
  simp only [turn?, Publisher.turn?, send?, close?, free, Option.isNone_none, if_true]
  cases r.replies.send? <;> simp

theorem turn_cases {r r' : Router} (turn : r.turn? = some r') :
    ∃ p, r.replies.turn? = some p ∧ r' = { r with replies := p } := by
  by_cases free : r.held = none
  · rw [turn_eq free] at turn
    obtain ⟨p, turned, rfl⟩ := Option.map_eq_some_iff.mp turn
    exact ⟨p, turned, rfl⟩
  · have silent : r.send? = none := by simp [send?, free]
    simp only [turn?, silent, Option.orElse_eq_orElse, Option.orElse_none, close?] at turn
    obtain ⟨p, closed, rfl⟩ := Option.map_eq_some_iff.mp turn
    refine ⟨p, ?_, rfl⟩
    have nothing : r.replies.send? = none := by
      unfold Publisher.close? at closed
      split at closed
      · rename_i empty
        simp [Publisher.send?, Queue.pop?, empty.1, empty.2]
      · cases closed
    simp [Publisher.turn?, nothing, closed]

/-- Only a router that serves takes a message from its socket. -/
theorem receive_cases {r r' : Router} {signer : Signer} {frames : List Bytes}
    (received : r.receive? signer frames = some r') :
    r'.replies = r.replies ∧ r.replies.phase = .serving := by
  unfold receive? at received
  split at received
  · rename_i free
    have serving : r.replies.phase = .serving := by simp_all [isFree]
    split at received
    · cases received
      exact ⟨rfl, serving⟩
    · cases received
      exact ⟨rfl, serving⟩
  · cases received

theorem hand_cases {r r' : Router} (handed : r.hand? = some r') :
    r'.replies = r.replies ∧ r'.held = none := by
  unfold hand? at handed
  split at handed
  · cases handed
  · obtain ⟨q, _, rfl⟩ := Option.map_eq_some_iff.mp handed
    exact ⟨rfl, rfl⟩

theorem take_cases {r r' : Router} {request : Request} (took : r.take? = some (request, r')) :
    r'.replies = r.replies ∧ r'.held = r.held := by
  obtain ⟨⟨q, rest⟩, _, same⟩ := Option.map_eq_some_iff.mp took
  cases same
  exact ⟨rfl, rfl⟩

theorem put_eq (r : Router) (m : Message) :
    taken r (r.enqueue? m) = { r with replies := taken r.replies (r.replies.enqueue? m) } := by
  unfold enqueue?
  cases r.replies.enqueue? m <;> rfl

theorem sent_changes (r : Router) :
    ∃ p, r.replies.Changes [] p ∧ taken r r.send? = { r with replies := p } := by
  unfold send?
  split
  · refine ⟨taken r.replies r.replies.send?, r.replies.pushed_changes, ?_⟩
    cases r.replies.send? <;> rfl
  · exact ⟨r.replies, .stays _, rfl⟩

theorem drain_cases {r r' : Router} (drain : r.drain? = some r') :
    r.held = none ∧ ∃ p, r.replies.drain? = some p ∧ r' = { r with replies := p } := by
  unfold drain? at drain
  split at drain
  · rename_i free
    obtain ⟨p, drained, rfl⟩ := Option.map_eq_some_iff.mp drain
    exact ⟨by simpa using free, p, drained, rfl⟩
  · cases drain

end Router

namespace ConnectedKernel

variable {σ : Type} {n n' : ConnectedKernel σ} {o : Outlet}

/-- The pump of an outlet. -/
def outlet (n : ConnectedKernel σ) : Outlet → Publisher
  | .replies c => (n.router c).replies
  | .broadcasts => n.iopub

/-- Put a message into the queue of an outlet. -/
def enqueue? (n : ConnectedKernel σ) (m : Message) : Outlet → Option (ConnectedKernel σ)
  | .replies c => ((n.router c).enqueue? m).map (n.withRouter c)
  | .broadcasts => (n.iopub.enqueue? m).map fun p => { n with iopub := p }

/-- The pump of an outlet takes a turn. -/
def turn? (n : ConnectedKernel σ) : Outlet → Option (ConnectedKernel σ)
  | .replies c => (n.router c).turn?.map (n.withRouter c)
  | .broadcasts => n.iopub.turn?.map fun p => { n with iopub := p }

/-- The pump of an outlet notices that it has to close. -/
def drain? (n : ConnectedKernel σ) : Outlet → Option (ConnectedKernel σ)
  | .replies c => (n.router c).drain?.map (n.withRouter c)
  | .broadcasts => n.iopub.drain?.map fun p => { n with iopub := p }

/-- Somebody sends something, with the next identifier and date. -/
def offer? (n : ConnectedKernel σ) (e : Emission) : Option (ConnectedKernel σ) :=
  { n with stamped := n.stamped + 1 }.enqueue? (e.message (n.stamps n.stamped)) e.outlet

@[simp] theorem outlet_stamped (n : ConnectedKernel σ) (o : Outlet) (count : Nat) :
    { n with stamped := count }.outlet o = n.outlet o := by
  rcases o with ⟨_ | _⟩ | _ <;> rfl

@[simp] theorem outlet_kernel (n : ConnectedKernel σ) (o : Outlet) (k : Kernel σ) :
    { n with kernel := k }.outlet o = n.outlet o := by
  rcases o with ⟨_ | _⟩ | _ <;> rfl

@[simp] theorem router_kernel (n : ConnectedKernel σ) (c : RequestChannel) (k : Kernel σ) :
    { n with kernel := k }.router c = n.router c := by cases c <;> rfl

@[simp] theorem router_stamped (n : ConnectedKernel σ) (c : RequestChannel) (count : Nat) :
    { n with stamped := count }.router c = n.router c := by cases c <;> rfl

@[simp] theorem withRouter_router (n : ConnectedKernel σ) (c d : RequestChannel) (r : Router) :
    (n.withRouter c r).router d = if d = c then r else n.router d := by
  cases c <;> cases d <;> rfl

@[simp] theorem withRouter_iopub (n : ConnectedKernel σ) (c : RequestChannel) (r : Router) :
    (n.withRouter c r).iopub = n.iopub := by cases c <;> rfl

@[simp] theorem withRouter_kernel (n : ConnectedKernel σ) (c : RequestChannel) (r : Router) :
    (n.withRouter c r).kernel = n.kernel := by cases c <;> rfl

/-- Only the pump of one outlet changes, if any. -/
structure Puts (n n' : ConnectedKernel σ) (o : Outlet) (p : Publisher) : Prop where
  there : n'.outlet o = p
  elsewhere : ∀ o' ≠ o, n'.outlet o' = n.outlet o'
  held : ∀ c, (n'.router c).held = (n.router c).held
  kernel : n'.kernel = n.kernel

theorem puts_replies (n : ConnectedKernel σ) (c : RequestChannel) (p : Publisher) :
    n.Puts (n.withRouter c { n.router c with replies := p }) (.replies c) p where
  there := by simp [outlet]
  elsewhere o' other := by
    cases o' with
    | broadcasts => simp [outlet]
    | replies d =>
      have apart : d ≠ c := fun same => other (same ▸ rfl)
      simp [outlet, apart]
  held d := by
    by_cases same : d = c
    · simp [same]
    · simp [same]
  kernel := withRouter_kernel ..

theorem puts_broadcasts (n : ConnectedKernel σ) (p : Publisher) :
    n.Puts { n with iopub := p } .broadcasts p where
  there := rfl
  elsewhere o' other := by
    cases o' with
    | broadcasts => exact (other rfl).elim
    | replies d => cases d <;> rfl
  held d := by cases d <;> rfl
  kernel := rfl

/-- A router may do with requests what it likes. -/
theorem withRouter_outlet {c : RequestChannel} {r : Router}
    (same : r.replies = (n.router c).replies) : (n.withRouter c r).outlet o = n.outlet o := by
  cases o with
  | broadcasts => exact withRouter_iopub n c r
  | replies d =>
    by_cases here : d = c
    · subst here
      simpa [outlet] using same
    · simp [outlet, here]

theorem enqueue_puts {m : Message} (h : n.enqueue? m o = some n') :
    ∃ p, (n.outlet o).enqueue? m = some p ∧ n.Puts n' o p := by
  cases o with
  | replies c =>
    simp only [enqueue?, Router.enqueue?, Option.map_map, Option.map_eq_some_iff] at h
    obtain ⟨p, pushed, rfl⟩ := h
    exact ⟨p, pushed, puts_replies n c p⟩
  | broadcasts =>
    obtain ⟨p, pushed, rfl⟩ := Option.map_eq_some_iff.mp h
    exact ⟨p, pushed, puts_broadcasts n p⟩

theorem enqueue_blocked {m : Message} (h : n.enqueue? m o = none) :
    (n.outlet o).enqueue? m = none := by
  cases o with
  | replies c => exact Option.map_eq_none_iff.mp (Option.map_eq_none_iff.mp h)
  | broadcasts => exact Option.map_eq_none_iff.mp h

theorem turn_puts (h : n.turn? o = some n') :
    ∃ p, (n.outlet o).turn? = some p ∧ n.Puts n' o p := by
  cases o with
  | broadcasts =>
    obtain ⟨p, turned, rfl⟩ := Option.map_eq_some_iff.mp h
    exact ⟨p, turned, puts_broadcasts n p⟩
  | replies c =>
    obtain ⟨_, taken, rfl⟩ := Option.map_eq_some_iff.mp h
    obtain ⟨p, turned, rfl⟩ := Router.turn_cases taken
    exact ⟨p, turned, puts_replies n c p⟩

theorem drain_puts (h : n.drain? o = some n') :
    ∃ p, (n.outlet o).drain? = some p ∧ n.Puts n' o p := by
  cases o with
  | broadcasts =>
    obtain ⟨p, drained, rfl⟩ := Option.map_eq_some_iff.mp h
    exact ⟨p, drained, puts_broadcasts n p⟩
  | replies c =>
    obtain ⟨_, noticed, rfl⟩ := Option.map_eq_some_iff.mp h
    obtain ⟨_, p, drained, rfl⟩ := Router.drain_cases noticed
    exact ⟨p, drained, puts_replies n c p⟩

/-- An emission concerns only its own outlet, whose queue gets its message if it admits one. -/
theorem emit_puts (n : ConnectedKernel σ) (e : Emission) :
    ∃ q, (n.outlet e.outlet).Comes (if (n.outlet e.outlet).admits then
        [e.message (n.stamps n.stamped)] else []) q ∧
      (n.emit e).outlet e.outlet = q ∧ ∀ o ≠ e.outlet, (n.emit e).outlet o = n.outlet o := by
  let m := e.message (n.stamps n.stamped)
  let n' : ConnectedKernel σ := { n with stamped := n.stamped + 1 }
  have handed {q : Publisher}
      (sent : (taken (n.outlet e.outlet) ((n.outlet e.outlet).enqueue? m)).Changes [] q) :
      (n.outlet e.outlet).Comes (if (n.outlet e.outlet).admits then [m] else []) q := by
    have both := Publisher.Comes.next (Publisher.put_changes (n.outlet e.outlet) m)
      (.next sent (.here q))
    simpa using both
  have puts {q : Publisher} (puts : n'.Puts (n.emit e) e.outlet q) :
      (n.emit e).outlet e.outlet = q ∧ ∀ o ≠ e.outlet, (n.emit e).outlet o = n.outlet o :=
    ⟨puts.there, fun o other => (puts.elsewhere o other).trans (outlet_stamped n o _)⟩
  cases e with
  | broadcast r p =>
    exact ⟨_, handed (Publisher.pushed_changes _), puts (puts_broadcasts n' _)⟩
  | reply c r p =>
    have router : n'.router c = n.router c := router_stamped n c _
    obtain ⟨q, sent, same⟩ := Router.sent_changes (taken (n'.router c) ((n'.router c).enqueue? m))
    rw [Router.put_eq] at sent
    have emitted : n.emit (.reply c r p) = n'.withRouter c { n'.router c with replies := q } := by
      change n'.withRouter c (taken _ (Router.send? _)) = _
      rw [same, Router.put_eq]
    refine ⟨q, handed ?_, puts (emitted ▸ puts_replies n' c q)⟩
    rw [router] at sent
    exact sent

end ConnectedKernel

end NotebookKernel
