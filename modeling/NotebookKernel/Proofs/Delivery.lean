import NotebookKernel.Proofs.Farewell
import NotebookKernel.Proofs.Outlets

/-!
# Delivery

Whoever has something to send, the pumps, the request loops and the closing of the channels may
take their steps in any order. Whatever the order, an outlet has sent the first of the messages
that its queue accepted, and the others still wait in it; when its socket is closed, nothing waits
any more.
-/

namespace NotebookKernel

/-- A kernel behind its channels, while they may be closed and its producers may go away. -/
structure Exchange (σ : Type) where
  node : ConnectedKernel σ
  /-- Have the channels been told to close? -/
  closing : Bool
  /-- Is nobody left who could send anything? -/
  deserted : Bool

/-- One thing that can happen in an exchange. -/
inductive Happening (σ : Type) where
  /-- The kernel makes a move. -/
  | move (m : Move σ)
  /-- Somebody else sends something. -/
  | offer (e : Emission)
  /-- Frames arrive at the socket of a router. -/
  | receive (c : RequestChannel) (frames : List Bytes)
  /-- A router hands on the request that it holds. -/
  | hand (c : RequestChannel)
  /-- A request loop takes a request. -/
  | take (c : RequestChannel)
  /-- A pump sends a message, or closes its socket. -/
  | turn (o : Outlet)
  /-- A pump notices that it has to close. -/
  | notice (o : Outlet)
  /-- The channels are told to close. -/
  | close
  /-- Nobody is left who could send anything. -/
  | desert

/-- The outlet whose pump takes a turn. -/
def Happening.turned? {σ : Type} : Happening σ → Option Outlet
  | .turn o => some o
  | _ => none

/-- The turns that the pump of an outlet takes. -/
def turnsOf {σ : Type} (o : Outlet) (hs : List (Happening σ)) : Nat :=
  (hs.filterMap Happening.turned?).count o

namespace Exchange

variable {σ : Type}

/-- The exchange of a new kernel, with its channels just bound. -/
def opened (config : KernelConfig) (backend : Backend σ) (tooling : σ) (obedient : Bool)
    (signer : Signer) (endpoints : Endpoints) (stamps : Nat → Stamp) : Exchange σ where
  node := {
    signer := signer
    endpoints := endpoints
    kernel := .new config backend tooling obedient
    shell := .new config.capacity
    control := .new config.capacity
    iopub := .new config.capacity
    stamps := stamps
    stamped := 0 }
  closing := false
  deserted := false

/-- Does the pump of an outlet have to close? That of the broadcasts also closes when it has sent
everything and nothing more can come. -/
def mustClose (x : Exchange σ) (o : Outlet) : Bool :=
  x.closing || (x.deserted && o = .broadcasts && (x.node.outlet o).outbound.items.isEmpty)

def withNode (x : Exchange σ) (n : ConnectedKernel σ) : Exchange σ := { x with node := n }

@[simp] theorem withNode_node (x : Exchange σ) (n : ConnectedKernel σ) :
    (x.withNode n).node = n := rfl

def withRouter (x : Exchange σ) (c : RequestChannel) (r : Router) : Exchange σ :=
  x.withNode (x.node.withRouter c r)

/-- Somebody sends something, if anybody is left who could. -/
def give? (x : Exchange σ) : Option Emission → Option (ConnectedKernel σ)
  | none => some x.node
  | some e => if x.deserted then none else x.node.offer? e

/-- The exchange after something has happened; nothing if it cannot happen right now. A move of the
kernel has to wait as long as there is no room for what it sends. -/
def step? (x : Exchange σ) : Happening σ → Option (Exchange σ)
  | .move m => (x.give? (x.node.kernel.emission? m)).map fun n =>
      x.withNode { n with kernel := x.node.kernel.move m }
  | .offer e => (x.give? (some e)).map x.withNode
  | .receive c frames => ((x.node.router c).receive? x.node.signer frames).map (x.withRouter c)
  | .hand c => (x.node.router c).hand?.map (x.withRouter c)
  | .take c => (x.node.router c).take?.map fun (request, r) =>
      x.withNode { x.node.withRouter c r with kernel := x.node.kernel.enqueue c request }
  | .turn o => (x.node.turn? o).map x.withNode
  | .notice o => if x.mustClose o then (x.node.drain? o).map x.withNode else none
  | .close => some { x with closing := true }
  | .desert => some { x with deserted := true }

def step (x : Exchange σ) (h : Happening σ) : Exchange σ := taken x (x.step? h)

/-- Let things happen, one after the other. -/
def play (x : Exchange σ) (hs : List (Happening σ)) : Exchange σ := hs.foldl step x

/-- What somebody tries to send. -/
def offered? (x : Exchange σ) : Happening σ → Option Emission
  | .move m => x.node.kernel.emission? m
  | .offer e => some e
  | _ => none

/-- What the queue of an outlet gets of it. -/
def gets (x : Exchange σ) (o : Outlet) : Option Emission → List Message
  | none => []
  | some e =>
      if e.outlet = o ∧ x.deserted = false ∧ (x.node.outlet o).admits = true then
        [e.message (x.node.stamps x.node.stamped)]
      else []

/-- What the queue of an outlet accepts when something happens. -/
def accepts (x : Exchange σ) (o : Outlet) (h : Happening σ) : List Message :=
  x.gets o (x.offered? h)

/-- All that the queue of an outlet accepts, in the order in which it is accepted. -/
def accepted (x : Exchange σ) (o : Outlet) : List (Happening σ) → List Message
  | [] => []
  | h :: hs => x.accepts o h ++ (x.step h).accepted o hs

@[simp] theorem play_nil (x : Exchange σ) : x.play [] = x := rfl

@[simp] theorem play_cons (x : Exchange σ) (h : Happening σ) (hs : List (Happening σ)) :
    x.play (h :: hs) = (x.step h).play hs := rfl

@[simp] theorem play_append (x : Exchange σ) (first second : List (Happening σ)) :
    x.play (first ++ second) = (x.play first).play second := List.foldl_append

@[simp] theorem accepted_append (x : Exchange σ) (o : Outlet) (first second : List (Happening σ)) :
    x.accepted o (first ++ second) = x.accepted o first ++ (x.play first).accepted o second := by
  induction first generalizing x with
  | nil => rfl
  | cons h rest ih => simp [accepted, ih]

/-! ## What happens to an outlet -/

variable {x : Exchange σ}

theorem step_some {h : Happening σ} {y : Exchange σ} (stepped : x.step? h = some y) :
    x.step h = y := by simp [step, taken, stepped]

theorem step_none {h : Happening σ} (blocked : x.step? h = none) : x.step h = x := by
  simp [step, taken, blocked]

/-- What is given changes only the outlet that it is for. -/
structure Gives (x : Exchange σ) (e : Option Emission) (n : ConnectedKernel σ) : Prop where
  changes : ∀ o, (x.node.outlet o).Changes (x.gets o e) (n.outlet o)
  phase : ∀ o, (n.outlet o).phase = (x.node.outlet o).phase
  held : ∀ c, (n.router c).held = (x.node.router c).held
  kernel : n.kernel = x.node.kernel
  gets : ∀ e' ∈ e, (x.node.outlet e'.outlet).outbound.closed = false →
    x.gets e'.outlet e = [e'.message (x.node.stamps x.node.stamped)]

theorem give_some {e : Option Emission} {n : ConnectedKernel σ} (h : x.give? e = some n) :
    x.Gives e n := by
  cases e with
  | none =>
    obtain rfl := Option.some.inj h
    exact ⟨fun o => .stays _, fun _ => rfl, fun _ => rfl, rfl, by simp⟩
  | some e =>
    simp only [give?, Option.ite_none_left_eq_some, Bool.not_eq_true] at h
    obtain ⟨present, offered⟩ := h
    obtain ⟨p, pushed, puts⟩ := ConnectedKernel.enqueue_puts offered
    obtain ⟨there, elsewhere, held, kernel⟩ := puts
    simp only [ConnectedKernel.outlet_stamped, ConnectedKernel.router_stamped]
      at pushed elsewhere held
    refine ⟨fun o => ?_, fun o => ?_, held, kernel, ?_⟩
    · by_cases here : e.outlet = o
      · subst here
        simpa [Exchange.gets, present, there] using Publisher.enqueue_changes pushed
      · rw [elsewhere o (Ne.symm here)]
        simpa [Exchange.gets, here] using Publisher.Changes.stays (x.node.outlet o)
    · by_cases here : e.outlet = o
      · subst here
        obtain ⟨q, _, rfl⟩ := Option.map_eq_some_iff.mp pushed
        rw [there]
      · rw [elsewhere o (Ne.symm here)]
    · rintro _ ⟨⟩ opened
      simp [Exchange.gets, present, Publisher.admits_of_enqueue pushed opened]

/-- Whoever has to wait gets nothing accepted. -/
theorem give_none {e : Option Emission} (h : x.give? e = none) (o : Outlet) : x.gets o e = [] := by
  cases e with
  | none => rfl
  | some e =>
    refine if_neg fun ⟨here, present, room⟩ => ?_
    simp only [give?, present, Bool.false_eq_true, if_false] at h
    have full := Publisher.admits_of_waits (ConnectedKernel.enqueue_blocked h)
    rw [ConnectedKernel.outlet_stamped, here, room] at full
    cases full

/-- What a step does. An outlet changes in one of four ways, a router that has stopped serving holds
no request unless it did before, and what a move of the kernel sends is accepted if its queue is
open. -/
structure Effect (x : Exchange σ) (h : Happening σ) (n : ConnectedKernel σ) : Prop where
  changes : ∀ o, (x.node.outlet o).Changes (x.accepts o h) (n.outlet o)
  held : ∀ c, (n.outlet (.replies c)).phase ≠ .serving → (n.router c).held = none ∨
    (x.node.outlet (.replies c)).phase ≠ .serving ∧ (n.router c).held = (x.node.router c).held
  kernel : n.kernel = x.node.kernel ∨ (∃ c r, n.kernel = x.node.kernel.enqueue c r) ∨
    ∃ m, x.offered? h = x.node.kernel.emission? m ∧ n.kernel = x.node.kernel.move m ∧
      ∀ e ∈ x.node.kernel.emission? m, (x.node.outlet e.outlet).outbound.closed = false →
        x.accepts e.outlet h = [e.message (x.node.stamps x.node.stamped)]

namespace Effect

variable {h : Happening σ} {n : ConnectedKernel σ} {o : Outlet} {p : Publisher}

theorem of_nothing (nothing : ∀ o, x.accepts o h = []) : x.Effect h x.node where
  changes o := nothing o ▸ .stays _
  held _ stopped := Or.inr ⟨stopped, rfl⟩
  kernel := Or.inl rfl

theorem of_gives (given : x.Gives (x.offered? h) n) : x.Effect h n where
  changes := given.changes
  held c stopped := Or.inr ⟨given.phase (.replies c) ▸ stopped, given.held c⟩
  kernel := Or.inl given.kernel

theorem of_move {m : Move σ} (given : x.Gives (x.node.kernel.emission? m) n) :
    x.Effect (.move m) { n with kernel := x.node.kernel.move m } where
  changes o := by
    rw [ConnectedKernel.outlet_kernel]
    exact given.changes o
  held c := by
    rw [ConnectedKernel.outlet_kernel, ConnectedKernel.router_kernel]
    exact (of_gives (h := .move m) given).held c
  kernel := Or.inr (Or.inr ⟨m, rfl, rfl, given.gets⟩)

/-- A router does something with requests. -/
theorem of_router {c : RequestChannel} {r : Router} {k : Kernel σ} (silent : x.offered? h = none)
    (same : r.replies = (x.node.router c).replies)
    (held : r.replies.phase = .serving ∨ r.held = none ∨ r.held = (x.node.router c).held)
    (kernel : k = x.node.kernel ∨ ∃ c r, k = x.node.kernel.enqueue c r) :
    x.Effect h { x.node.withRouter c r with kernel := k } := by
  have outlets (o : Outlet) :
      { x.node.withRouter c r with kernel := k }.outlet o = x.node.outlet o :=
    (ConnectedKernel.outlet_kernel ..).trans (ConnectedKernel.withRouter_outlet same)
  refine ⟨fun o => ?_, fun d stopped => ?_, kernel.imp_right Or.inl⟩
  · rw [outlets, accepts, silent]
    exact .stays _
  · rw [outlets] at stopped
    rw [ConnectedKernel.router_kernel, ConnectedKernel.withRouter_router]
    by_cases here : d = c
    · subst here
      rw [if_pos rfl]
      rcases held with serving | free | kept
      · rw [same] at serving
        exact (stopped serving).elim
      · exact Or.inl free
      · exact Or.inr ⟨stopped, kept⟩
    · rw [if_neg here]
      exact Or.inr ⟨stopped, rfl⟩

/-- A pump does something. -/
theorem of_puts (silent : x.offered? h = none) (puts : x.node.Puts n o p)
    (changes : (x.node.outlet o).Changes [] p)
    (held : p.phase ≠ .serving → (x.node.outlet o).phase ≠ .serving ∨
      ∀ c, o = .replies c → (x.node.router c).held = none) : x.Effect h n where
  changes o' := by
    rw [accepts, silent]
    by_cases here : o' = o
    · subst here
      exact puts.there ▸ changes
    · exact puts.elsewhere o' here ▸ .stays _
  held c stopped := by
    rw [puts.held]
    by_cases here : .replies c = o
    · subst here
      rw [puts.there] at stopped
      rcases held stopped with before | free
      · exact Or.inr ⟨before, rfl⟩
      · exact Or.inl (free c rfl)
    · exact Or.inr ⟨puts.elsewhere _ here ▸ stopped, rfl⟩
  kernel := Or.inl puts.kernel

end Effect

theorem accepts_of_blocked {h : Happening σ} (blocked : x.step? h = none) (o : Outlet) :
    x.accepts o h = [] := by
  cases h with
  | move m => exact give_none (Option.map_eq_none_iff.mp blocked) o
  | offer e => exact give_none (Option.map_eq_none_iff.mp blocked) o
  | _ => rfl

theorem step_effect (x : Exchange σ) (h : Happening σ) : x.Effect h (x.step h).node := by
  cases stepped : x.step? h with
  | none =>
    rw [step_none stepped]
    exact .of_nothing (accepts_of_blocked stepped)
  | some y =>
    rw [step_some stepped]
    cases h with
    | move m =>
      obtain ⟨n, given, rfl⟩ := Option.map_eq_some_iff.mp stepped
      exact .of_move (give_some given)
    | offer e =>
      obtain ⟨n, given, rfl⟩ := Option.map_eq_some_iff.mp stepped
      exact .of_gives (give_some given)
    | receive c frames =>
      obtain ⟨r, received, rfl⟩ := Option.map_eq_some_iff.mp stepped
      obtain ⟨same, serving⟩ := Router.receive_cases received
      exact .of_router rfl same (Or.inl (same ▸ serving))
        (Or.inl (ConnectedKernel.withRouter_kernel ..))
    | hand c =>
      obtain ⟨r, handed, rfl⟩ := Option.map_eq_some_iff.mp stepped
      obtain ⟨same, free⟩ := Router.hand_cases handed
      exact .of_router rfl same (Or.inr (Or.inl free))
        (Or.inl (ConnectedKernel.withRouter_kernel ..))
    | take c =>
      obtain ⟨⟨request, r⟩, took, rfl⟩ := Option.map_eq_some_iff.mp stepped
      obtain ⟨same, kept⟩ := Router.take_cases took
      exact .of_router rfl same (Or.inr (Or.inr kept)) (Or.inr ⟨c, request, rfl⟩)
    | turn o =>
      obtain ⟨n, turned, rfl⟩ := Option.map_eq_some_iff.mp stepped
      obtain ⟨p, turned, puts⟩ := ConnectedKernel.turn_puts turned
      refine .of_puts rfl puts (.turns turned) fun stopped => Or.inl ?_
      rcases Publisher.turn_cases turned with ⟨_, _, _, _, rfl⟩ | ⟨draining, _⟩
      · exact stopped
      · simp [draining]
    | notice o =>
      simp only [step?, Option.ite_none_right_eq_some] at stepped
      obtain ⟨n, noticed, rfl⟩ := Option.map_eq_some_iff.mp stepped.2
      obtain ⟨p, drained, puts⟩ := ConnectedKernel.drain_puts noticed
      refine .of_puts rfl puts (.drains drained) fun _ => Or.inr ?_
      rintro c rfl
      obtain ⟨r, took, _⟩ := Option.map_eq_some_iff.mp noticed
      exact (Router.drain_cases took).1
    | close =>
      cases stepped
      exact .of_nothing fun _ => rfl
    | desert =>
      cases stepped
      exact .of_nothing fun _ => rfl

/-- What many steps do to an outlet. -/
theorem play_comes (x : Exchange σ) (o : Outlet) (hs : List (Happening σ)) :
    (x.node.outlet o).Comes (x.accepted o hs) ((x.play hs).node.outlet o) := by
  induction hs generalizing x with
  | nil => exact .here _
  | cons h rest ih => exact .next ((step_effect x h).changes o) (ih _)

theorem opened_outlet (config : KernelConfig) (backend : Backend σ) (tooling : σ) (obedient : Bool)
    (signer : Signer) (endpoints : Endpoints) (stamps : Nat → Stamp) (o : Outlet) :
    (opened config backend tooling obedient signer endpoints stamps).node.outlet o =
      .new config.capacity := by
  rcases o with ⟨_ | _⟩ | _ <;> rfl

/-! ## Closing -/

/-- A router that has stopped serving holds no request. -/
def Settled (x : Exchange σ) : Prop :=
  ∀ c, (x.node.outlet (.replies c)).phase ≠ .serving → (x.node.router c).held = none

theorem Settled.step (h : x.Settled) (e : Happening σ) : (x.step e).Settled := by
  intro c stopped
  rcases (step_effect x e).held c stopped with free | ⟨before, kept⟩
  · exact free
  · exact kept.trans (h c before)

theorem Settled.play (h : x.Settled) (hs : List (Happening σ)) : (x.play hs).Settled := by
  induction hs generalizing x with
  | nil => exact h
  | cons e rest ih => exact ih (h.step e)

/-- A pump that drains its queue can take a turn. -/
theorem step_turn (settled : x.Settled) {o : Outlet}
    (draining : (x.node.outlet o).phase = .draining) :
    (x.node.outlet o).turn? = some ((x.step (.turn o)).node.outlet o) := by
  have able : ∃ p, (x.node.outlet o).turn? = some p := by
    cases waiting : (x.node.outlet o).outbound.items with
    | nil =>
      simp [Publisher.turn?, Publisher.send?, Publisher.close?, Queue.pop?, draining, waiting]
    | cons m rest => simp [Publisher.turn?, Publisher.send?, Queue.pop?, draining, waiting]
  have ready : ∃ n, x.node.turn? o = some n := by
    obtain ⟨p, turned⟩ := able
    cases o with
    | broadcasts => exact ⟨_, Option.map_eq_some_iff.mpr ⟨p, turned, rfl⟩⟩
    | replies c =>
      have free : (x.node.router c).held = none := settled c (by simp [draining])
      have goes := Router.turn_eq free
      rw [show (x.node.router c).replies.turn? = some p from turned] at goes
      exact ⟨_, Option.map_eq_some_iff.mpr ⟨_, goes, rfl⟩⟩
  obtain ⟨n, turned⟩ := ready
  obtain ⟨p, taken, puts⟩ := ConnectedKernel.turn_puts turned
  have stepped : x.step? (.turn o) = some (x.withNode n) :=
    Option.map_eq_some_iff.mpr ⟨n, turned, rfl⟩
  rw [taken, step_some stepped, withNode_node, puts.there]

/-- Each turn of a pump that has stopped serving sends a message that waits, or closes its socket
when none is left. -/
theorem play_drains (settled : x.Settled) {o : Outlet} (sound : (x.node.outlet o).Sound)
    (stopped : (x.node.outlet o).phase ≠ .serving) (hs : List (Happening σ))
    (enough : (x.node.outlet o).outbound.items.length < turnsOf o hs) :
    ((x.play hs).node.outlet o).phase = .closed := by
  induction hs generalizing x with
  | nil => simp [turnsOf] at enough
  | cons h rest ih =>
    have changes := (step_effect x h).changes o
    obtain ⟨_, still, fewer⟩ := changes.stopped sound stopped
    by_cases closed : ((x.step h).node.outlet o).phase = .closed
    · have stays := (play_comes (x.step h) o rest).closed (changes.sound sound) closed
      rw [play_cons, stays, closed]
    · refine ih (settled.step h) (changes.sound sound) still ?_
      by_cases turns : h = .turn o
      · subst turns
        have draining : (x.node.outlet o).phase = .draining := by
          cases phase : (x.node.outlet o).phase with
          | draining => rfl
          | serving => exact (stopped phase).elim
          | closed => exact (closed (changes.closed sound phase ▸ phase)).elim
        rcases Publisher.turn_cases (step_turn settled draining) with
          ⟨_, m, left, waiting, sent⟩ | ⟨_, _, shut⟩
        · simp only [turnsOf, List.filterMap_cons, Happening.turned?,
            List.count_cons_self] at enough
          rw [sent]
          rw [waiting, List.length_cons] at enough
          exact Nat.lt_of_succ_lt_succ enough
        · rw [shut] at closed
          exact (closed rfl).elim
      · have same : turnsOf o (h :: rest) = turnsOf o rest := by
          cases h with
          | turn o' =>
            have apart : o' ≠ o := fun same => turns (same ▸ rfl)
            simp [turnsOf, Happening.turned?, apart]
          | _ => rfl
        omega

/-! ## Farewells -/

theorem play_polite (polite : x.node.kernel.Polite) (hs : List (Happening σ)) :
    (x.play hs).node.kernel.Polite := by
  induction hs generalizing x with
  | nil => exact polite
  | cons h rest ih =>
    refine ih ?_
    rcases (step_effect x h).kernel with same | ⟨c, r, took⟩ | ⟨m, _, moved, _⟩
    · rw [same]
      exact polite
    · rw [took]
      exact polite.enqueue c r
    · rw [moved]
      exact polite.move m

/-- What the kernel has sent was accepted, unless its queue had been closed. -/
theorem emitted_accepted (fresh : x.node.kernel.emitted = []) (hs : List (Happening σ)) :
    ∀ e ∈ (x.play hs).node.kernel.emitted, ∃ before h after, hs = before ++ h :: after ∧
      (x.play before).offered? h = some e ∧
      (((x.play before).node.outlet e.outlet).outbound.closed = false →
        ∃ stamp, e.message stamp ∈ x.accepted e.outlet hs) := by
  induction hs using List.reverseRecOn with
  | nil => simp [fresh]
  | append_singleton past h ih =>
    intro e sent
    rw [play_append] at sent
    have earlier (old : e ∈ (x.play past).node.kernel.emitted) :
        ∃ before h' after, past ++ [h] = before ++ h' :: after ∧
          (x.play before).offered? h' = some e ∧
          (((x.play before).node.outlet e.outlet).outbound.closed = false →
            ∃ stamp, e.message stamp ∈ x.accepted e.outlet (past ++ [h])) := by
      obtain ⟨before, h', after, rfl, offered, accepted⟩ := ih e old
      refine ⟨before, h', after ++ [h], by simp, offered, fun opened => ?_⟩
      obtain ⟨stamp, member⟩ := accepted opened
      exact ⟨stamp, by rw [accepted_append]; exact List.mem_append_left _ member⟩
    rcases (step_effect (x.play past) h).kernel with
      same | ⟨c, r, took⟩ | ⟨m, offers, moved, accepts⟩
    · exact earlier (by simpa [same] using sent)
    · exact earlier (by simpa [took, Kernel.enqueue_emitted] using sent)
    · simp only [play_cons, play_nil, moved, Kernel.move_emitted, List.mem_append,
        Option.mem_toList] at sent
      rcases sent with old | new
      · exact earlier old
      · let stamp := (x.play past).node.stamps (x.play past).node.stamped
        refine ⟨past, h, [], rfl, offers.trans new, fun opened => ⟨stamp, ?_⟩⟩
        simp [accepted, accepts e new opened, stamp]

/-- Whoever sends something through an open queue gets it in, or has to wait. -/
theorem step_accepts {h : Happening σ} {e : Emission} (offers : x.offered? h = some e)
    (opened : (x.node.outlet e.outlet).outbound.closed = false) :
    x.step h = x ∨ x.accepts e.outlet h = [e.message (x.node.stamps x.node.stamped)] := by
  cases stepped : x.step? h with
  | none => exact Or.inl (step_none stepped)
  | some y =>
    refine Or.inr ?_
    cases h with
    | move m =>
      obtain ⟨n, given, _⟩ := Option.map_eq_some_iff.mp stepped
      exact (give_some given).gets e offers opened
    | offer e' =>
      obtain rfl := Option.some.inj offers
      obtain ⟨n, given, _⟩ := Option.map_eq_some_iff.mp stepped
      exact (give_some given).gets e' rfl opened
    | _ => cases offers

/-- However the steps of a kernel, of others who send something, of the pumps and of the closing
are interleaved: each outlet has sent the first of the messages that its queue accepted, each once
and in order, and the others wait in it. An open queue loses nothing. Once its pump has stopped
serving, the queue accepts nothing more, and the pump needs only its own turns to send the rest and
close its socket. When the socket is closed everything has been sent, and nothing is sent any more.
The farewell of a loop that is about to ask the kernel to exit is among what has been sent when the
socket of its channel is closed, unless the queue was no longer open when it was said. -/
theorem accepted_delivered (config : KernelConfig) (backend : Backend σ) (tooling : σ)
    (obedient : Bool) (signer : Signer) (endpoints : Endpoints) (stamps : Nat → Stamp)
    (hs : List (Happening σ)) (o : Outlet) :
    let x₀ := opened config backend tooling obedient signer endpoints stamps
    let x := x₀.play hs
    let p := x.node.outlet o
    p.sent ++ p.outbound.items = x₀.accepted o hs ∧
      (p.phase = .closed → p.sent = x₀.accepted o hs) ∧
      (p.outbound.closed = false ↔ p.phase = .serving) ∧
      (∀ h e, x.offered? h = some e → e.outlet = o → p.phase = .serving →
        x.step h = x ∨ x.accepts o h = [e.message (x.node.stamps x.node.stamped)]) ∧
      ∀ more,
        let q := (x.play more).node.outlet o
        p.sent <+: q.sent ∧
          (p.phase ≠ .serving → x.accepted o more = []) ∧
          (p.phase ≠ .serving → p.outbound.items.length < turnsOf o more → q.phase = .closed) ∧
          (p.phase = .closed → q = p) ∧
          (q.phase = .closed → ∀ c, o = .replies c → ∀ s ∈ x.node.kernel.strands,
            s.loop = some c → s.work.IsLeaving →
            ∃ r before h after, hs = before ++ h :: after ∧
              (x₀.play before).offered? h = some (.reply c r (.shutdownOk false)) ∧
              (((x₀.play before).node.outlet o).phase = .serving →
                ∃ stamp, r.reply stamp (.shutdownOk false) ∈ q.sent)) := by
  intro x₀ x p
  have new : x₀.node.outlet o = .new config.capacity := opened_outlet ..
  have fresh : (Publisher.new config.capacity).Sound := Publisher.new_sound _
  have sound (past : List (Happening σ)) : ((x₀.play past).node.outlet o).Sound :=
    (play_comes x₀ o past).sound (new ▸ fresh)
  have conserved (past : List (Happening σ)) :
      ((x₀.play past).node.outlet o).sent ++ ((x₀.play past).node.outlet o).outbound.items =
        x₀.accepted o past := by
    simpa [new, Publisher.new, Queue.new] using (play_comes x₀ o past).conserves
  have finished (past : List (Happening σ))
      (closed : ((x₀.play past).node.outlet o).phase = .closed) :
      ((x₀.play past).node.outlet o).sent = x₀.accepted o past := by
    rw [← conserved, (sound past).emptied closed, List.append_nil]
  have settled : x.Settled := by
    refine Settled.play (fun c stopped => ?_) hs
    cases c <;> exact (stopped rfl).elim
  refine ⟨conserved hs, finished hs, (sound hs).openly, ?_, fun more => ?_⟩
  · rintro h e offers rfl serving
    exact step_accepts offers ((sound hs).openly.mpr serving)
  · intro q
    have comes : p.Comes (x.accepted o more) q := play_comes x o more
    refine ⟨comes.sent_prefix, fun stopped => (comes.stopped (sound hs) stopped).1,
      fun stopped enough => play_drains settled (sound hs) stopped more enough,
      comes.closed (sound hs), ?_⟩
    rintro closed c rfl s member loop leaving
    have polite : x.node.kernel.Polite :=
      play_polite (Kernel.new_polite config backend tooling obedient) hs
    obtain ⟨r, said⟩ := (polite s member c loop).leaves leaving
    obtain ⟨before, h, after, cut, offers, accepted⟩ := emitted_accepted rfl hs _ said
    refine ⟨r, before, h, after, cut, offers, fun serving => ?_⟩
    obtain ⟨stamp, given⟩ := accepted ((sound before).openly.mpr serving)
    refine ⟨stamp, ?_⟩
    have all : q.sent = x₀.accepted (.replies c) (hs ++ more) := by
      have last := finished (hs ++ more)
      rw [play_append] at last
      exact last closed
    rw [all, accepted_append]
    exact List.mem_append_left _ given

end Exchange

end NotebookKernel
