import NotebookKernel.Proofs.RoundTrip
import NotebookKernel.Proofs.Solo
import NotebookKernel.Proofs.Upkeep
import NotebookKernel.Tooling.Scripted

/-!
# Clogged channels

A channel is clogged when its router has read a request for which there is no room while its
request loop is in the middle of another one. Until the loop goes on, the router then neither
sends nor closes, whatever else happens.
-/

namespace NotebookKernel

open Job

/-- The router holds a request for which there is no room. -/
def Router.IsStuck (r : Router) : Prop := r.held.isSome = true ∧ r.hand? = none

namespace Router

variable {r : Router}

theorem IsStuck.holds (stuck : r.IsStuck) : r.held ≠ none := Option.isSome_iff_ne_none.mp stuck.1

/-- There is no room just if the queue is open and full. -/
theorem IsStuck.full (stuck : r.IsStuck) :
    r.inbound.closed = false ∧ r.inbound.hasRoom = false := by
  obtain ⟨held, blocked⟩ := stuck
  obtain ⟨q, held⟩ := Option.isSome_iff_exists.mp held
  unfold hand? at blocked
  simp only [held, Option.map_eq_none_iff] at blocked
  unfold Queue.push? at blocked
  split at blocked
  · cases blocked
  · rename_i opened
    split at blocked
    · cases blocked
    · rename_i full
      exact ⟨by simpa using opened, by simpa using full⟩

/-- A router that is stuck takes no turn of its own. -/
theorem IsStuck.still (stuck : r.IsStuck) (serving : r.replies.phase = .serving) :
    (∀ signer frames, r.receive? signer frames = none) ∧ r.turn? = none ∧ r.drain? = none := by
  have busy : r.held.isNone = false := by
    rw [← Option.not_isSome, stuck.1]
    rfl
  refine ⟨fun signer frames => ?_, ?_, ?_⟩
  · simp [receive?, isFree, busy]
  · simp [turn?, send?, busy, close?, Publisher.close?, serving]
  · simp [drain?, busy]

end Router

/-! ## Strands of a request loop -/

/-- What a loop sends in the middle of a request goes to its own channel or to everyone. -/
theorem Work.Serves.sends {c : RequestChannel} {r : Request} {sent : List Emission} {w : Work}
    {e : Emission} (serves : w.Serves c r sent) (sends : w.emission? = some e) :
    e.outlet = .replies c ∨ e.outlet = .broadcasts := by
  obtain ⟨next, rfl⟩ : ∃ next, w = .job (.act (.emit e) next) := by
    cases w with
    | job j =>
      cases j with
      | done f => cases sends
      | act a next =>
        cases a with
        | emit e' =>
          cases sends
          exact ⟨next, rfl⟩
        | _ => cases sends
    | _ => cases sends
  have later : (Work.job (next ())).Serves c r (sent ++ [e]) := Bound.step serves ()
  obtain ⟨block, enveloped, _, begins⟩ := later.beginning
  have said : e ∈ block.sent := begins.subset (by simp)
  unfold Handled.Enveloped at enveloped
  split at enveloped
  · rw [enveloped.1] at said
    cases said
  · obtain ⟨_, body, belongs, all⟩ := enveloped
    rw [all] at said
    simp only [List.mem_cons, List.mem_append, List.not_mem_nil, or_false] at said
    rcases said with rfl | inside | rfl
    · exact Or.inr rfl
    · have own := belongs e inside
      cases e with
      | reply d q p =>
        obtain ⟨rfl, _⟩ := own
        exact Or.inl rfl
      | broadcast q p => exact Or.inr rfl
    · exact Or.inr rfl

theorem Work.isClosing_iff {w : Work} : w.isClosing = true ↔
    ∃ old next, w = .stopping (.retiring (.disposing old)) next := by
  constructor
  · intro closing
    unfold isClosing at closing
    split at closing
    · exact ⟨_, _, rfl⟩
    · cases closing
  · rintro ⟨old, next, rfl⟩
    rfl

theorem Work.isClosing_of_sends {w : Work} {e : Emission} (sends : w.emission? = some e) :
    w.isClosing = false := by
  cases w with
  | stopping p next => cases sends
  | _ => rfl

namespace Kernel

variable {σ : Type} {k : Kernel σ} {c : RequestChannel} {arrived : List Request}

/-- A loop that is in the middle of a request has one strand. -/
theorem LoopIs.busy_strand (loop : k.LoopIs c arrived []) (busy : (k.lane c).busy = true) :
    ∃ (i : Nat) (s : Strand) (r : Request) (sent : List Emission),
      k.strands[i]? = some s ∧ s.loop = some c ∧ s.work.Serves c r sent := by
  obtain ⟨l, works, es, lane, work, _, loop⟩ := loop.parts
  cases loop with
  | free | ended =>
    rw [lane] at busy
    cases busy
  | serving handled r sent w queue proper serves =>
    have member : w ∈ worksOf c k.strands := by simp_all
    obtain ⟨s, inside, own⟩ := List.mem_filterMap.mp member
    split at own
    · rename_i mine
      cases own
      obtain ⟨i, found⟩ := List.getElem?_of_mem inside
      exact ⟨i, s, r, sent, found, mine, serves⟩
    · cases own

/-- A strand of a loop serves the request that the loop is in the middle of. -/
theorem LoopIs.of_strand (loop : k.LoopIs c arrived []) {s : Strand} (member : s ∈ k.strands)
    (own : s.loop = some c) : (k.lane c).busy = true ∧ (k.lane c).ended = false ∧
      ∃ r sent, s.work.Serves c r sent := by
  have mine : s.work ∈ worksOf c k.strands := List.mem_filterMap.mpr ⟨s, member, by simp [own]⟩
  obtain ⟨l, works, es, lane, work, _, loop⟩ := loop.parts
  cases loop with
  | free | ended =>
    rw [List.nil_append] at work
    rw [work] at mine
    cases mine
  | serving handled r sent w queue proper serves =>
    rw [List.nil_append] at work
    rw [work, List.mem_singleton] at mine
    exact ⟨by simp [lane], by simp [lane], r, sent, mine ▸ serves⟩

/-- A move in which the strand does not go on leaves it among the strands. -/
theorem mem_move {m : Move σ} {s : Strand} (member : s ∈ k.strands)
    (other : ∀ i, m.mover? = some i → k.strands[i]? ≠ some s) : s ∈ (k.move m).strands := by
  obtain ⟨j, found⟩ := List.getElem?_of_mem member
  obtain ⟨i, _, kept⟩ := follow_of_other found fun same => other j same found
  exact List.mem_of_getElem? kept

/-- A session that was taken away is asked to close, and the stop goes on. -/
theorem stepped_closing (k : Kernel σ) {s : Strand} (closing : s.work.isClosing = true) :
    ∃ wake work, (k.stepped s).1 = some (wake, work) ∧ work.isClosing = false ∧
      (k.stepped s).2.strands = [] := by
  obtain ⟨old, next, asks⟩ := Work.isClosing_iff.mp closing
  simp only [stepped, asks]
  refine ⟨_, _, rfl, ?_, rfl⟩
  dsimp only
  split <;> rfl

end Kernel

namespace Deployment

variable {σ : Type} {x y : Deployment σ} {m : Motion σ} {e : Exchange σ} {t : Teardown}
  {config : KernelConfig} {c : RequestChannel}

/-- The router holds a request for which there is no room, while the loop is in the middle of
another. -/
structure Clogged (x : Deployment σ) (c : RequestChannel) : Prop where
  stuck : (x.node.router c).IsStuck
  busy : (x.kernel.lane c).busy = true

/-- The channel's request loop goes on with the request that it is in the middle of. To ask a
session to close that has already been taken away does not count. -/
def LetsGo (x : Deployment σ) (c : RequestChannel) (m : Motion σ) : Prop :=
  ∃ i s, m = .happens (.move (.go i)) ∧ x.kernel.strands[i]? = some s ∧ s.loop = some c ∧
    s.work.isClosing = false

namespace Regular

variable (regular : x.Regular config)

include regular

theorem early_of_held (held : (x.node.router c).held ≠ none) :
    (x.node.outlet (.replies c)).phase = .serving ∧
      (x.teardown = .awaiting ∨ x.teardown = .closing) := by
  have serving : (x.node.outlet (.replies c)).phase = .serving := by
    by_contra stopped
    exact held (regular.settled c stopped)
  refine ⟨serving, ?_⟩
  by_contra late
  obtain ⟨begun, further⟩ := not_or.mp late
  rw [regular.shut begun further (.replies c)] at serving
  cases serving

theorem going_of_held (held : (x.node.router c).held ≠ none) : x.teardown ≠ .gone := by
  rcases (regular.early_of_held held).2 with early | early <;> simp [early]

/-- A strand that sends something belongs to a loop, and sends it to the channel of its loop or to
everyone. -/
theorem sends {s : Strand} {em : Emission} (going : x.teardown ≠ .gone)
    (member : s ∈ x.kernel.strands) (sends : s.work.emission? = some em) :
    ∃ d, s.loop = some d ∧ (em.outlet = .replies d ∨ em.outlet = .broadcasts) := by
  cases own : s.loop with
  | none =>
    have stays := regular.orderly s member
    rw [own] at stays
    obtain ⟨loop, work, wake⟩ := s
    cases work with
    | job j =>
      cases j with
      | done f => cases sends
      | act a next =>
        cases a with
        | emit e => exact (stays.1 rfl).elim
        | _ => cases sends
    | _ => cases sends
  | some d =>
    obtain ⟨arrived, _, loop⟩ := regular.loops going d
    obtain ⟨_, _, r, sent, serves⟩ := loop.of_strand member own
    exact ⟨d, rfl, serves.sends sends⟩

end Regular

namespace Clogged

variable (clogged : x.Clogged c)

include clogged

theorem early (regular : x.Regular config) :
    (x.node.router c).replies.phase = .serving ∧
      (x.teardown = .awaiting ∨ x.teardown = .closing) :=
  regular.early_of_held clogged.stuck.holds

theorem going (regular : x.Regular config) : x.teardown ≠ .gone :=
  regular.going_of_held clogged.stuck.holds

omit clogged in
/-- What another loop sends, or a move in which nothing is sent, does not concern the router. -/
theorem give_other {mv : Move σ} {n : ConnectedKernel σ} (regular : x.Regular config)
    (going : x.teardown ≠ .gone) (other : ¬x.LetsGo c (.happens (.move mv)))
    (given : x.exchange.give? (x.kernel.emission? mv) = some n) :
    n.router c = x.node.router c := by
  cases sends : x.kernel.emission? mv with
  | none =>
    rw [sends] at given
    cases given
    rfl
  | some em =>
    rw [sends] at given
    simp only [Exchange.give?, Option.ite_none_left_eq_some] at given
    refine (ConnectedKernel.offer_sends given.2).others c fun same => ?_
    cases mv with
    | go i =>
      obtain ⟨s, found, sent⟩ := Option.bind_eq_some_iff.mp sends
      obtain ⟨d, own, here | everyone⟩ := regular.sends going (List.mem_of_getElem? found) sent
      · rw [here] at same
        cases same
        exact other ⟨i, s, rfl, found, own, Work.isClosing_of_sends sent⟩
      · rw [everyone] at same
        cases same
    | _ => cases sends

omit clogged in
/-- A loop that does not go on with its request keeps its strand. -/
theorem strand_stays {mv : Move σ} (other : ¬x.LetsGo c (.happens (.move mv))) {i : Nat}
    {s : Strand} (found : x.kernel.strands[i]? = some s) (own : s.loop = some c) :
    (s.work.isClosing = false → s ∈ (x.kernel.move mv).strands) ∧
      ∃ s' ∈ (x.kernel.move mv).strands, s'.loop = some c := by
  -- If this strand is the one that moves, it asks a session to close.
  by_cases goes : ∃ j, mv.mover? = some j ∧ x.kernel.strands[j]? = some s
  · obtain ⟨j, mover, here⟩ := goes
    cases mv with
    | go j' =>
      cases mover
      have closing : s.work.isClosing = true := by
        by_contra going
        exact other ⟨j, s, rfl, here, own, by simpa using going⟩
      obtain ⟨wake, work, next, _⟩ := x.kernel.stepped_closing closing
      have place := (Kernel.follow_of_stepped here next).2
      exact ⟨by simp [closing], _, List.mem_of_getElem? place, own⟩
    | _ => cases mover
  · have member := Kernel.mem_move (List.mem_of_getElem? found) fun j mover here =>
      goes ⟨j, mover, here⟩
    exact ⟨fun _ => member, s, member, own⟩

/-- While the loop of a clogged channel does not go on, its router stands still, its strand stays
where it is, and nobody gets beyond closing the channels. -/
theorem frame (regular : x.Regular config) (h : x.Leads m e t) (other : ¬x.LetsGo c m) :
    e.node.router c = x.node.router c ∧
      (∀ s ∈ x.kernel.strands, s.loop = some c →
        (s.work.isClosing = false → s ∈ e.node.kernel.strands) ∧
          ∃ s' ∈ e.node.kernel.strands, s'.loop = some c) ∧
      (t = .awaiting ∨ t = .closing) ∧ (x.teardown = .closing → t = .closing) := by
  obtain ⟨serving, early⟩ := clogged.early regular
  obtain ⟨deaf, silent, unmoved⟩ := clogged.stuck.still serving
  have elsewhere {d : RequestChannel} {r : Router} (apart : c ≠ d) :
      (x.exchange.withRouter d r).node.router c = x.node.router c := by simp [apart]
  have apart {d : RequestChannel} {r : Router} {f : Router → Option Router}
      (acted : f (x.node.router d) = some r) (still : f (x.node.router c) = none) : c ≠ d := by
    rintro rfl
    rw [still] at acted
    cases acted
  have more {k : Kernel σ} (grown : ∀ s ∈ x.kernel.strands, s ∈ k.strands) :
      ∀ s ∈ x.kernel.strands, s.loop = some c →
        (s.work.isClosing = false → s ∈ k.strands) ∧ ∃ s' ∈ k.strands, s'.loop = some c :=
    fun s member own => ⟨fun _ => grown s member, s, grown s member, own⟩
  have kept {k : Kernel σ} (same : k = x.kernel) : ∀ s ∈ x.kernel.strands, s ∈ k.strands :=
    fun s member => same ▸ member
  have fed (d : RequestChannel) (k : Kernel σ) (same : k.strands = x.kernel.strands) :
      ∀ s ∈ x.kernel.strands, s ∈ (k.feedLane d).strands := by
    intro s member
    obtain ⟨ss, began, _⟩ := (Kernel.feeds_feedLane k d).strands
    rw [began, same]
    exact List.mem_append_left _ member
  cases h with
  | @moves mv n admitted given =>
    refine ⟨?_, fun s member own => ?_, early, id⟩
    · rw [Exchange.withNode_node, ConnectedKernel.router_kernel]
      exact give_other regular (clogged.going regular) other given
    · obtain ⟨i, found⟩ := List.getElem?_of_mem member
      exact strand_stays other found own
  | @receives d frames r received =>
    have apart := apart (f := fun r => r.receive? x.node.signer frames) received (deaf ..)
    exact ⟨elsewhere apart, more (kept (Exchange.withRouter_kernel ..)), early, id⟩
  | hands handed =>
    exact ⟨elsewhere (apart handed clogged.stuck.2), more (kept (Exchange.withRouter_kernel ..)),
      early, id⟩
  | sends turned =>
    have sends := ConnectedKernel.turn_sends turned
    refine ⟨sends.others c ?_, more (kept sends.kernel), early, id⟩
    rintro rfl
    obtain ⟨r, took, _⟩ := Option.map_eq_some_iff.mp turned
    exact apart took silent rfl
  | notices must noticed =>
    have sends := ConnectedKernel.drain_sends noticed
    refine ⟨sends.others c ?_, more (kept sends.kernel), early, id⟩
    rintro rfl
    obtain ⟨r, drained, _⟩ := Option.map_eq_some_iff.mp noticed
    exact apart drained unmoved rfl
  | deserts alone => exact ⟨rfl, more (kept rfl), early, id⟩
  | @ends d idle asked => exact ⟨Exchange.withKernel_router .., more (fed d _ rfl), early, id⟩
  | @begins d r router idle unasked took =>
    have apart : c ≠ d := by
      rintro rfl
      have free := (Kernel.isIdle_iff.mp idle).1
      rw [clogged.busy] at free
      cases free
    refine ⟨?_, more (fed d _ ?_), early, id⟩
    · rw [Exchange.withKernel_router]
      exact elsewhere apart
    · unfold Kernel.enqueue
      split
      · rfl
      · exact Kernel.withLane_strands ..
  | closes awaits asked => exact ⟨rfl, more (kept rfl), Or.inr rfl, fun _ => rfl⟩
  | stops closing closed =>
    -- The router still serves, so not all sockets are closed.
    have shut := x.exchange.isClosed_iff.mp closed (.replies c)
    rw [show (x.node.router c).replies.phase = _ from shut] at serving
    cases serving
  | turns stopping => simp [stopping] at early
  | aborts stopping => simp [stopping] at early

/-- A clogged channel stays clogged while its loop does not go on. -/
theorem step (regular : x.Regular config) (other : ¬x.LetsGo c m) :
    (x.step m).Clogged c ∧ (x.step m).node.router c = x.node.router c ∧
      (∀ s ∈ x.kernel.strands, s.loop = some c → s.work.isClosing = false →
        s ∈ (x.step m).kernel.strands) ∧
      (x.teardown = .closing → (x.step m).teardown = .closing) := by
  rcases x.step_cases m with stays | ⟨e, t, led, leads⟩
  · rw [stays]
    exact ⟨clogged, rfl, fun _ member _ _ => member, id⟩
  · rw [leads]
    obtain ⟨still, strands, early, closing⟩ := clogged.frame regular led other
    have same : (⟨e.hangUp, t⟩ : Deployment σ).kernel = e.node.kernel := e.hangUp_kernel
    have going : t ≠ .gone := by
      rcases early with same | same <;> simp [same]
    obtain ⟨arrived, _, loop⟩ := regular.loops (clogged.going regular) c
    obtain ⟨i, s, r, sent, found, own, serves⟩ := loop.busy_strand clogged.busy
    obtain ⟨_, s', member, own'⟩ := strands s (List.mem_of_getElem? found) own
    obtain ⟨arrived', _, loop'⟩ := (regular.leads led).loops going c
    obtain ⟨busy, unended, _⟩ := loop'.of_strand (same ▸ member) own'
    rw [same] at unended
    have router : (⟨e.hangUp, t⟩ : Deployment σ).node.router c = x.node.router c := by
      rw [show (⟨e.hangUp, t⟩ : Deployment σ).node.router c = _ from e.hangUp_router c, unended,
        still]
      rfl
    refine ⟨⟨router ▸ clogged.stuck, busy⟩, router, fun s member own open_ => ?_, closing⟩
    rw [same]
    exact (strands s member own).1 open_

end Clogged

/-! ## Room for one message -/

/-- A kernel with room for one message in each of its queues, behind its channels, with scripted
tooling that does not fail. -/
def narrow : Deployment Script :=
  opened { KernelConfig.standard with capacity := 1 } Script.backend {} .unsigned ⟨"", "", "", ""⟩
    fun _ => ⟨"", ""⟩

/-- The router has read a request. -/
def holding (x : Deployment σ) (c : RequestChannel) (r : Request) : Deployment σ :=
  ⟨(x.exchange.withRouter c { x.node.router c with held := some r }).hangUp, x.teardown⟩

/-- A strand goes on by itself for a number of steps. -/
def goes (steps i : Nat) : List (Motion Script) := List.replicate steps (.happens (.move (.go i)))

/-- A message arrives at a channel, and is handed on if there is room for it. -/
def arriving (c : RequestChannel) (m : Message) : List (Motion Script) :=
  [.happens (.receive c (m.encode .unsigned)), .happens (.hand c)]

/-- A message that a front-end sends is read by a router that is free. -/
theorem play_arriving {x : Deployment Script} {message : Message} {r : Request}
    (read : Router.decode .unsigned (message.encode .unsigned) = .ok r)
    (unsigned : x.node.signer.isEnabled = false) (free : (x.node.router c).isFree = true) :
    x.play (arriving c message) = (x.holding c r).step (.happens (.hand c)) := by
  have signer : x.node.signer = .unsigned := by
    cases own : x.node.signer with
    | unsigned => rfl
    | keyed key => simp [own, Signer.isEnabled] at unsigned
  have received : (x.node.router c).receive? x.node.signer (message.encode .unsigned) =
      some { x.node.router c with held := some r } := by
    simp [Router.receive?, free, signer, read]
  rw [arriving, play_cons, step_eq (.receives received), play_cons, play_nil, holding]

end Deployment

/-- What a front-end asks is read by a router without a key. -/
theorem Router.decode_asking {type : String} {content : Json.Dict} {r : Request}
    (readable : (Json.Value.object content).Readable Json.standardRoom)
    (typed : Request.ofMessage (.asking type content) = .ok r) :
    decode .unsigned ((Message.asking type content).encode .unsigned) = .ok r := by
  have metadata : (Json.Value.fields []).Readable Json.standardRoom :=
    ⟨⟨.nil, trivial⟩, trivial, by decide⟩
  have read : Message.decode .unsigned ((Message.asking type content).encode .unsigned) =
    .ok (.asking type content) := Message.decode_sealed List.not_mem_nil metadata readable
  simp only [decode, read, typed]

end NotebookKernel
