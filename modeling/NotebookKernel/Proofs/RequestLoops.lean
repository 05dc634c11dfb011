import NotebookKernel.Proofs.Pace
import NotebookKernel.Proofs.Strands

/-!
# Request loops

Each loop serves its requests one at a time, in the order in which they arrive, until it
sees that the kernel was asked to exit. The journal of a loop is a sequence of blocks, one
for each request, and this holds for each of the two loops whatever else goes on between
its steps.
-/

namespace NotebookKernel

open Job

/-- The request loop that an event is about. -/
def Event.loop? : Event → Option RequestChannel
  | begun c _ => some c
  | sent c _ => c
  | called _ _ => none
  | served c _ _ => some c
  | signalled => none
  | closed c => some c
  | returned _ _ => none

/-- What the journal says about a request while it is served: it was begun, and messages were
sent. -/
def progressOf (c : RequestChannel) (r : Request) (sent : List Emission) : List Event :=
  .begun c r :: sent.map (.sent (some c))

@[simp] theorem progressOf_emissions (c : RequestChannel) (r : Request) (sent : List Emission) :
    (progressOf c r sent).filterMap Event.emission? = sent := by
  simp [progressOf, List.filterMap_cons, Event.emission?, Function.comp_def]

/-- What the journal says about a request that was handled. -/
def Handled.events (c : RequestChannel) (h : Handled) : List Event :=
  progressOf c h.request h.sent ++ [.served c h.request h.verdict]

/-- What a strand leaves behind at its end tells of a request that was properly handled. -/
def Finish.Ends (c : RequestChannel) (r : Request) (sent : List Emission) : Finish → Prop
  | .shell q _ v => c = .shell ∧ q = r ∧ Handled.Enveloped c ⟨r, sent, v⟩
  | .control q v => c = .control ∧ q = r ∧ Handled.Enveloped c ⟨r, sent, v⟩
  | .call _ _ => False

/-- However the rest of the job goes, the request is properly handled at its end. -/
def Bound (c : RequestChannel) (r : Request) (sent : List Emission) (j : Job Finish) : Prop :=
  ∀ t f, j.Runs t f → f.Ends c r (sent ++ sentIn t)

theorem Bound.step {c : RequestChannel} {r : Request} {sent : List Emission} {a : Action}
    {next : a.Answer → Job Finish} (h : Bound c r sent (.act a next)) (x : a.Answer) :
    Bound c r (sent ++ sentIn [⟨a, x⟩]) (next x) := by
  intro t f run
  have ends := h (⟨a, x⟩ :: t) f (.act x run)
  rwa [show ⟨a, x⟩ :: t = [⟨a, x⟩] ++ t from rfl, sentIn_append, ← List.append_assoc] at ends

/-- Work at which a request loop is in the middle of a request. -/
def Work.Serves (c : RequestChannel) (r : Request) (sent : List Emission) : Work → Prop
  | .job j => Bound c r sent j
  | .joined _ next => ∀ o, Bound c r sent (next o)
  | .stopping _ next => ∀ o, Bound c r sent (next o)
  | .flying _ _ => False

/-- The loop is done with its request after so many turns of the work. The last one is that in
which it leaves its verdict. -/
def Work.Takes : Work → Nat → Prop
  | .job j, n => 0 < n ∧ j.Takes (n - 1)
  | .joined _ next, n => 1 < n ∧ ∀ o, (next o).Takes (n - 2)
  | .stopping p next, n => p.remaining + 1 < n ∧ ∀ o, (next o).Takes (n - (p.remaining + 2))
  | .flying _ _, _ => False

theorem Work.Takes.mono {w : Work} {n m : Nat} (h : w.Takes n) (le : n ≤ m) : w.Takes m := by
  cases w with
  | job j => exact ⟨Nat.lt_of_lt_of_le h.1 le, h.2.mono (by omega)⟩
  | joined f next => exact ⟨Nat.lt_of_lt_of_le h.1 le, fun o => (h.2 o).mono (by omega)⟩
  | stopping p next => exact ⟨Nat.lt_of_lt_of_le h.1 le, fun o => (h.2 o).mono (by omega)⟩
  | flying f p => exact h.elim

theorem Work.Takes.pos {w : Work} {n : Nat} (h : w.Takes n) : 0 < n := by
  cases w with
  | job j => exact h.1
  | joined f next => exact Nat.zero_lt_of_lt h.1
  | stopping p next => exact Nat.zero_lt_of_lt h.1
  | flying f p => exact h.elim

/-- All that a turn makes of work that is not at its end, and what is sent by it. -/
inductive Work.Goes : Work → List Emission → Work → Prop
  | acts {a : Action} (next : a.Answer → Job Finish) (x : a.Answer) (single : a.turns = 1) :
      Work.Goes (.job (.act a next)) (sentIn [⟨a, x⟩]) (.job (next x))
  | joins (next : FlightOutcome → Job Finish) (f : FlightId) :
      Work.Goes (.job (.act .restart next)) [] (.joined f next)
  | resumes (next : FlightOutcome → Job Finish) (f : FlightId) (o : FlightOutcome) :
      Work.Goes (.joined f next) [] (.job (next o))
  | stops (next : StopOutcome → Job Finish) :
      Work.Goes (.job (.act .stop next)) [] (.stopping .entering next)
  | turns {p q : StopPhase} (next : StopOutcome → Job Finish) (leads : p.turn.Leads q) :
      Work.Goes (.stopping p next) [] (.stopping q next)
  | stopped {p : StopPhase} (next : StopOutcome → Job Finish) (o : StopOutcome)
      (ended : p.outcome? = some o) : Work.Goes (.stopping p next) [] (.job (next o))

/-- A turn leaves work at the same request. -/
theorem Work.Goes.serves {c : RequestChannel} {r : Request} {sent es : List Emission}
    {w next : Work} (turn : w.Goes es next) (h : w.Serves c r sent) :
    next.Serves c r (sent ++ es) := by
  cases turn with
  | acts next x _ => exact Bound.step h x
  | joins next f | stops next => exact fun o => Bound.step h o
  | resumes next f o | stopped next o _ =>
    rw [List.append_nil]
    exact h o
  | turns next _ =>
    rw [List.append_nil]
    exact h

/-- With each turn one less is left. -/
theorem Work.Goes.takes {es : List Emission} {w next : Work} (turn : w.Goes es next) {n : Nat}
    (h : w.Takes n) : next.Takes (n - 1) := by
  cases turn with
  | @acts a next x single =>
    obtain ⟨positive, enough, rest⟩ := h
    rw [single] at enough
    refine ⟨enough, ?_⟩
    have left := rest x
    rwa [single] at left
  | joins next f =>
    obtain ⟨positive, enough, rest⟩ := h
    exact ⟨enough, rest⟩
  | resumes next f o => exact ⟨Nat.sub_pos_of_lt h.1, h.2 o⟩
  | stops next =>
    obtain ⟨positive, enough, rest⟩ := h
    exact ⟨enough, rest⟩
  | turns next leads =>
    have less := StopPhase.remaining_lt leads
    refine ⟨by have := h.1; omega, fun o => (h.2 o).mono (by omega)⟩
  | stopped next o ended =>
    exact ⟨by have := h.1; omega, (h.2 o).mono (by omega)⟩

/-- A request off the wire is properly handled by the shell. -/
theorem Session.process_bound (s : Session) {m : Message} {r : Request}
    (typed : Request.ofMessage m = .ok r) :
    Bound .shell r [] ((s.process r).map fun (s, v) => .shell r s v) := by
  intro t f run
  obtain ⟨t, ⟨s', v⟩, u, rfl, processed, made⟩ := runs_bind.mp run
  obtain ⟨rfl, rfl⟩ := runs_done.mp made
  refine ⟨rfl, rfl, ?_⟩
  simp only [process, sync, bind_eq, perform, Job.bind, pure_eq, runs_act] at processed
  obtain ⟨g, t, rfl, processed⟩ := processed
  unfold Handled.Enveloped
  cases routed : Service.find? .shell r.msgType with
  | none =>
    simp only [routed, runs_done] at processed
    obtain ⟨rfl, h⟩ := processed
    cases h
    exact ⟨rfl, rfl⟩
  | some service =>
    simp only [routed] at processed
    obtain ⟨u, served, sent⟩ := enveloped_runs processed
    obtain ⟨handled, survived⟩ := Goes.within served (serve_within _ r service)
    refine ⟨survived (Request.reads_of_ofMessage typed routed), sentIn u, ?_, by simp [sent]⟩
    exact sentIn_belongs handled

/-- A request off the wire is properly handled by the control channel. -/
theorem Control.process_bound (config : KernelConfig) {m : Message} {r : Request}
    (typed : Request.ofMessage m = .ok r) :
    Bound .control r [] ((Control.process config r).map (.control r)) := by
  intro t f run
  obtain ⟨t, v, u, rfl, processed, made⟩ := runs_bind.mp run
  obtain ⟨rfl, rfl⟩ := runs_done.mp made
  refine ⟨rfl, rfl, ?_⟩
  unfold Handled.Enveloped
  unfold process at processed
  cases routed : Service.find? .control r.msgType with
  | none =>
    simp only [routed, pure_eq, runs_done] at processed
    obtain ⟨rfl, rfl⟩ := processed
    exact ⟨rfl, rfl⟩
  | some service =>
    simp only [routed] at processed
    obtain ⟨u, served, sent⟩ := enveloped_runs processed
    obtain ⟨handled, survived⟩ := Goes.within served (serve_within config r service)
    refine ⟨survived (Request.reads_of_ofMessage typed routed), sentIn u, ?_, by simp [sent]⟩
    exact sentIn_belongs handled

theorem Kernel.service_bound {σ : Type} (k : Kernel σ) (c : RequestChannel) {m : Message}
    {r : Request} (typed : Request.ofMessage m = .ok r) : Bound c r [] (k.service r c) := by
  cases c with
  | shell => exact k.session.process_bound typed
  | control => exact Control.process_bound k.config typed

/-- Every question has some answer, so that every job can come to an end. -/
theorem Job.exists_runs {α : Type} (j : Job α) : ∃ t a, j.Runs t a := by
  induction j with
  | done a => exact ⟨[], a, .here _⟩
  | act a next ih =>
    have answer : Nonempty a.Answer := by
      cases a with
      | generation => exact ⟨0⟩
      | lease => exact ⟨none⟩
      | restart => exact ⟨.ok 0⟩
      | stop => exact ⟨.stopped⟩
      | call c => cases c <;> first | exact ⟨.crashed none⟩ | exact ⟨()⟩
      | emit e => exact ⟨()⟩
      | leave => exact ⟨()⟩
    obtain ⟨x⟩ := answer
    obtain ⟨t, b, run⟩ := ih x
    exact ⟨⟨a, x⟩ :: t, b, .act x run⟩

/-- What was sent so far is the beginning of a proper block. -/
theorem Work.Serves.beginning {c : RequestChannel} {r : Request} {sent : List Emission}
    {w : Work} (h : w.Serves c r sent) :
    ∃ block : Handled, block.Enveloped c ∧ block.request = r ∧ sent <+: block.sent := by
  have ended (j : Job Finish) (bound : Bound c r sent j) :
      ∃ block : Handled, block.Enveloped c ∧ block.request = r ∧ sent <+: block.sent := by
    obtain ⟨t, f, run⟩ := j.exists_runs
    have ends := bound t f run
    cases f with
    | shell q s v => exact ⟨_, ends.2.2, rfl, List.prefix_append ..⟩
    | control q v => exact ⟨_, ends.2.2, rfl, List.prefix_append ..⟩
    | call tag result => exact ends.elim
  cases w with
  | job j => exact ended j h
  | joined f next => exact ended _ (h (.ok 0))
  | stopping p next => exact ended _ (h .stopped)
  | flying f p => exact h.elim

/-- A request loop: the requests that have arrived for it, its lane, its strands, and what the
journal says about it. -/
inductive Loop (c : RequestChannel) : List Request → Lane → List Work → List Event → Prop
  /-- It has handled some requests and has nothing to do. -/
  | free (handled : List Handled) (queue : List Request)
      (proper : ∀ h ∈ handled, h.Enveloped c) :
      Loop c (handled.map Handled.request ++ queue) ⟨queue, false, false⟩ []
        (handled.flatMap (Handled.events c))
  /-- It is in the middle of a request. -/
  | serving (handled : List Handled) (r : Request) (sent : List Emission) (w : Work)
      (queue : List Request) (proper : ∀ h ∈ handled, h.Enveloped c) (serves : w.Serves c r sent)
      (takes : w.Takes 16) :
      Loop c (handled.map Handled.request ++ r :: queue) ⟨queue, true, false⟩ [w]
        (handled.flatMap (Handled.events c) ++ progressOf c r sent)
  /-- It has ended, and forgot the requests that waited or came later. -/
  | ended (handled : List Handled) (forgotten : List Request)
      (proper : ∀ h ∈ handled, h.Enveloped c) :
      Loop c (handled.map Handled.request ++ forgotten) ⟨[], false, true⟩ []
        (handled.flatMap (Handled.events c) ++ [.closed c])

/-- A loop has at most one strand. -/
theorem Loop.one_strand {c : RequestChannel} {arrived : List Request} {l : Lane}
    {works : List Work} {es : List Event} (h : Loop c arrived l works es) : works.length ≤ 1 := by
  cases h with
  | free => exact Nat.zero_le _
  | serving => exact Nat.le_refl _
  | ended => exact Nat.zero_le _

/-- A request that arrives waits for its loop, or is forgotten. -/
theorem Loop.arrives {c : RequestChannel} {arrived : List Request} {l : Lane}
    {works : List Work} {es : List Event} (h : Loop c arrived l works es) (r : Request) :
    Loop c (arrived ++ [r]) (if l.ended then l else { l with queue := l.queue ++ [r] })
      works es := by
  cases h with
  | free handled queue proper => simpa using Loop.free handled (queue ++ [r]) proper
  | serving handled q sent w queue proper serves takes =>
    simpa using Loop.serving handled q sent w (queue ++ [r]) proper serves takes
  | ended handled forgotten proper => simpa using Loop.ended handled (forgotten ++ [r]) proper

/-- The work of a request loop among strands. -/
def worksOf (c : RequestChannel) (strands : List Strand) : List Work :=
  strands.filterMap fun s => if s.loop = some c then some s.work else none

@[simp] theorem worksOf_nil (c : RequestChannel) : worksOf c [] = [] := rfl

@[simp] theorem worksOf_append (c : RequestChannel) (ss ts : List Strand) :
    worksOf c (ss ++ ts) = worksOf c ss ++ worksOf c ts :=
  List.filterMap_append

@[simp] theorem worksOf_cons (c : RequestChannel) (s : Strand) (ss : List Strand) :
    worksOf c (s :: ss) = (if s.loop = some c then [s.work] else []) ++ worksOf c ss := by
  simp only [worksOf, List.filterMap_cons]
  split <;> simp_all

/-- A loop that has one piece of work has it in one place. -/
theorem worksOf_unique {c : RequestChannel} {ss : List Strand}
    (few : (worksOf c ss).length ≤ 1) {i j : Nat} {s t : Strand} (first : ss[i]? = some s)
    (own : s.loop = some c) (second : ss[j]? = some t) (own' : t.loop = some c) : i = j := by
  induction ss generalizing i j with
  | nil => simp at first
  | cons head rest ih =>
    have later {n : Nat} {u : Strand} (found : rest[n]? = some u) (own : u.loop = some c) :
        u.work ∈ worksOf c rest :=
      List.mem_filterMap.mpr ⟨u, List.mem_of_getElem? found, by simp [own]⟩
    cases i with
    | zero =>
      cases j with
      | zero => rfl
      | succ j =>
        cases first
        have works := List.length_pos_of_mem (later second own')
        simp only [worksOf_cons, if_pos own, List.length_append, List.length_singleton] at few
        omega
    | succ i =>
      cases j with
      | zero =>
        cases second
        have works := List.length_pos_of_mem (later first own)
        simp only [worksOf_cons, if_pos own', List.length_append, List.length_singleton] at few
        omega
      | succ j =>
        simp only [worksOf_cons, List.length_append] at few
        rw [ih (by omega) first second]

theorem worksOf_eq {c : RequestChannel} {ss : List Strand} (few : (worksOf c ss).length ≤ 1)
    {i : Nat} {s : Strand} (found : ss[i]? = some s) (own : s.loop = some c) :
    worksOf c ss = [s.work] := by
  have member : s.work ∈ worksOf c ss :=
    List.mem_filterMap.mpr ⟨s, List.mem_of_getElem? found, by simp [own]⟩
  obtain ⟨w, same⟩ := List.length_eq_one_iff.mp
    (Nat.le_antisymm few (List.length_pos_of_mem member))
  rw [same, List.mem_singleton] at member
  rw [same, member]

namespace Kernel

variable {σ : Type} {k : Kernel σ} {c : RequestChannel} {arrived : List Request}
  {more : List Work}

/-- Can the strand go on, whenever its call is answered? -/
def isReady (k : Kernel σ) (s : Strand) : Bool :=
  match s.work with
  | .joined f _ => (k.landing? f).isSome
  | _ => true

/-- What the journal says about a request loop. -/
def past (k : Kernel σ) (c : RequestChannel) : List Event :=
  k.journal.filter fun e => e.loop? = some c

@[simp] theorem note_past (k : Kernel σ) (e : Event) :
    (k.note e).past c = k.past c ++ if e.loop? = some c then [e] else [] := by
  simp only [past, note_journal, List.filter_append, List.filter_cons, List.filter_nil,
    decide_eq_true_eq]

@[simp] theorem withLane_past (k : Kernel σ) (d : RequestChannel) (l : Lane) :
    (k.withLane d l).past c = k.past c := by simp [past]

@[simp] theorem spawn_past (k : Kernel σ) (loop : Option RequestChannel) (w : Work) :
    (k.spawn loop w).past c = k.past c := rfl

/-- The loop of a channel, with more work beside that of the strands. -/
def LoopIs (k : Kernel σ) (c : RequestChannel) (arrived : List Request) (more : List Work) :
    Prop :=
  Loop c arrived (k.lane c) (more ++ worksOf c k.strands) (k.past c)

theorem LoopIs.of_loop {l : Lane} {works : List Work} {es : List Event}
    (h : Loop c arrived l works es) (lane : k.lane c = l)
    (work : more ++ worksOf c k.strands = works) (past : k.past c = es) :
    k.LoopIs c arrived more := by
  subst lane work past
  exact h

/-- A loop and where its parts are found. -/
theorem LoopIs.parts (h : k.LoopIs c arrived more) :
    ∃ l works es, k.lane c = l ∧ more ++ worksOf c k.strands = works ∧ k.past c = es ∧
      Loop c arrived l works es :=
  ⟨_, _, _, rfl, rfl, rfl, h⟩

/-- For one loop nothing happens between two kernels but that it sends some messages. -/
structure Sends (k : Kernel σ) (c : RequestChannel) (es : List Emission) (j : Kernel σ) :
    Prop where
  lane : j.lane c = k.lane c
  works : worksOf c j.strands = worksOf c k.strands
  past : j.past c = k.past c ++ es.map (.sent (some c))

theorem Sends.still {j : Kernel σ} (lane : j.lane c = k.lane c)
    (works : worksOf c j.strands = worksOf c k.strands) (past : j.past c = k.past c) :
    k.Sends c [] j :=
  ⟨lane, works, by simp [past]⟩

theorem Sends.refl (k : Kernel σ) (c : RequestChannel) : k.Sends c [] k := .still rfl rfl rfl

theorem LoopIs.congr {j : Kernel σ} (h : k.LoopIs c arrived more) (same : k.Sends c [] j) :
    j.LoopIs c arrived more :=
  .of_loop h same.lane (by rw [same.works]) (by simp [same.past])

/-- What a loop does when it looks for work is nothing to the other one. -/
theorem feedLane_other (k : Kernel σ) {d : RequestChannel} (other : d ≠ c) :
    k.Sends c [] (k.feedLane d) := by
  unfold Kernel.feedLane
  split
  · exact .refl k c
  · split
    · exact .still (by simp [other]) (by simp) (by simp [Event.loop?, other])
    · split
      · exact .refl k c
      · exact .still (by simp [other]) (by simp [other]) (by simp [Event.loop?, other])

/-- A loop that looks for work begins the first request that waits, or sees that it has to end. -/
theorem LoopIs.feedLane (h : k.LoopIs c arrived more)
    (wired : ∀ r ∈ arrived, ∃ m, Request.ofMessage m = .ok r) (d : RequestChannel) :
    (k.feedLane d).LoopIs c arrived more := by
  by_cases same : d = c
  · subst d
    obtain ⟨l, works, es, lane, work, past, loop⟩ := h.parts
    cases loop with
    | serving handled r sent w queue proper serves =>
      simp only [Kernel.feedLane, lane, Bool.true_or, if_true]
      exact h
    | ended handled forgotten proper =>
      simp only [Kernel.feedLane, lane, Bool.or_true, if_true]
      exact h
    | free handled queue proper =>
      simp only [Kernel.feedLane, lane, Bool.or_false, Bool.false_eq_true, if_false]
      split
      · refine .of_loop (.ended handled queue proper) ?_ ?_ ?_
        · simp [Lane.close]
        · simpa using work
        · simp [past, Event.loop?]
      · cases queue with
        | nil => exact h
        | cons r rest =>
          obtain ⟨m, typed⟩ := wired r (by simp)
          have bound : (Work.job (k.service r c)).Serves c r [] := k.service_bound c typed
          have takes : (Work.job (k.service r c)).Takes 16 := ⟨by decide, k.service_takes r c⟩
          refine .of_loop (.serving handled r [] _ rest proper bound takes) ?_ ?_ ?_
          · simp
          · simpa [← List.append_assoc] using congrArg (· ++ [Work.job (k.service r c)]) work
          · simp [past, Event.loop?, progressOf]
  · exact h.congr (k.feedLane_other same)

/-- Work of a loop that is known of belongs to the request that the loop is in the middle of. -/
theorem LoopIs.serving {w : Work} (h : k.LoopIs c arrived [w]) :
    ∃ (handled : List Handled) (r : Request) (sent : List Emission) (queue : List Request),
      (∀ h ∈ handled, h.Enveloped c) ∧ w.Serves c r sent ∧ w.Takes 16 ∧
      arrived = handled.map Handled.request ++ r :: queue ∧ k.lane c = ⟨queue, true, false⟩ ∧
      worksOf c k.strands = [] ∧
      k.past c = handled.flatMap (Handled.events c) ++ progressOf c r sent := by
  obtain ⟨l, works, es, lane, work, past, loop⟩ := h.parts
  cases loop with
  | free => cases work
  | ended => cases work
  | serving handled r sent w queue proper serves takes =>
    obtain ⟨rfl, nothing⟩ := List.cons.inj work
    exact ⟨handled, r, sent, queue, proper, serves, takes, rfl, lane, nothing, past⟩

/-- A loop goes on with its request: it sends some messages, and its work is not yet done. -/
theorem LoopIs.goOn {j : Kernel σ} {w next : Work} {es : List Emission}
    (h : k.LoopIs c arrived [w]) (sends : k.Sends c es j)
    (serves : ∀ r sent, w.Serves c r sent → next.Serves c r (sent ++ es))
    (takes : w.Takes 16 → next.Takes 16) : j.LoopIs c arrived [next] := by
  obtain ⟨handled, r, sent, queue, proper, served, took, rfl, lane, works, past⟩ := h.serving
  refine .of_loop (.serving handled r _ next queue proper (serves r sent served) (takes took))
    ?_ ?_ ?_
  · rw [sends.lane, lane]
  · rw [sends.works, works, List.append_nil]
  · simp [sends.past, past, progressOf]

/-- A loop is done with its request and looks for the next one. -/
theorem LoopIs.finish {f : Finish} (h : k.LoopIs c arrived [.job (.done f)])
    (wired : ∀ r ∈ arrived, ∃ m, Request.ofMessage m = .ok r) :
    (k.finish f).LoopIs c arrived [] := by
  obtain ⟨handled, r, sent, queue, proper, serves, _, rfl, lane, works, past⟩ := h.serving
  have ends : f.Ends c r (sent ++ sentIn []) := serves [] f (.here _)
  rw [sentIn_nil, List.append_nil] at ends
  -- After the release the loop is free, before it looks for the next request.
  have released (v : Verdict) (enveloped : Handled.Enveloped c ⟨r, sent, v⟩) (i : Kernel σ)
      (sameLane : i.lane c = k.lane c) (alone : worksOf c i.strands = [])
      (samePast : i.past c = k.past c) :
      (i.release c r v).LoopIs c (handled.map Handled.request ++ r :: queue) [] := by
    let last : Handled := ⟨r, sent, v⟩
    have done : ∀ h ∈ handled ++ [last], h.Enveloped c := by
      intro h member
      rcases List.mem_append.mp member with old | new
      · exact proper h old
      · rw [List.mem_singleton.mp new]
        exact enveloped
    have free := Loop.free (handled ++ [last]) queue done
    simp only [List.map_append, List.map_cons, List.map_nil, List.append_assoc,
      List.singleton_append, last] at free
    refine LoopIs.feedLane (LoopIs.feedLane (.of_loop free ?_ ?_ ?_) wired _) wired _
    · simp [Lane.release, sameLane, lane]
    · simp [alone]
    · simp [samePast, past, Event.loop?, Handled.events]
  cases f with
  | shell q s v =>
    obtain ⟨rfl, rfl, enveloped⟩ := ends
    exact released v enveloped { k with session := s } rfl works rfl
  | control q v =>
    obtain ⟨rfl, rfl, enveloped⟩ := ends
    exact released v enveloped k rfl works rfl
  | call tag result => exact ends.elim

/-- The work that a step leaves. -/
def Continuation.works (next : Continuation σ) : List Work := (next.1.map Prod.snd).toList

/-- A turn of the supervisor or a call to the tooling is nothing to a request loop. -/
theorem takeTurn_still {φ : Type} (k : Kernel σ) (c : RequestChannel) (turn : Turn φ)
    (work : φ → Work) : k.Sends c [] (k.takeTurn turn work (none, k)).2 := by
  cases turn with
  | locked step => exact .still (by cases c <;> rfl) rfl rfl
  | call t next =>
    exact .still (by cases c <;> rfl) rfl
      (by simp [past, Kernel.takeTurn, ask, later, Event.loop?])
  | finished => exact .refl k c

theorem takeTurn_leads {φ : Type} (k : Kernel σ) {turn : Turn φ} (work : φ → Work)
    (unfinished : turn ≠ .finished) :
    ∃ wake p, turn.Leads p ∧ (k.takeTurn turn work (none, k)).1 = some (wake, work p) := by
  cases turn with
  | locked step => exact ⟨_, _, .locked k.supervisor, rfl⟩
  | call t next => exact ⟨_, _, .call _, rfl⟩
  | finished => exact absurd rfl unfinished

/-- A step of the strand that serves a request: its job is done, or the strand goes on with the
request, unless it waits for a flight that is still on its way. -/
theorem proceed_own (k : Kernel σ) {w : Work} {r : Request} {sent : List Emission}
    (serves : w.Serves c r sent) :
    (∃ f, w = .job (.done f)) ∨
      ∃ wake next es, (k.proceed (some c) w).1 = some (wake, next) ∧
        k.Sends c es (k.proceed (some c) w).2 ∧
        (w.Goes es next ∧ (∀ f rest, w = .joined f rest → k.landing? f ≠ none) ∨
          (∃ f rest, w = .joined f rest ∧ k.landing? f = none) ∧ next = w ∧ es = []) := by
  cases w with
  | job j =>
    cases j with
    | done f => exact Or.inl ⟨f, rfl⟩
    | act a next =>
      refine Or.inr ?_
      cases a with
      | restart =>
        refine ⟨_, _, [], rfl, .still ?_ ?_ ?_, Or.inl ⟨.joins next _, by simp⟩⟩
        · simp only [Kernel.proceed, act, atOnce]
          split
          · cases c <;> rfl
          · cases c <;> rfl
        · simp only [Kernel.proceed, act, atOnce]
          split
          · simp
          · rfl
        · simp only [Kernel.proceed, act, atOnce]
          split <;> simp [past, spawn]
      | stop => exact ⟨_, _, [], rfl, .refl k c, Or.inl ⟨.stops next, by simp⟩⟩
      | generation => exact ⟨_, _, [], rfl, .refl k c, Or.inl ⟨.acts next _ rfl, by simp⟩⟩
      | lease => exact ⟨_, _, [], rfl, .refl k c, Or.inl ⟨.acts next _ rfl, by simp⟩⟩
      | leave =>
        exact ⟨_, _, [], rfl, .still (by cases c <;> rfl) rfl rfl,
          Or.inl ⟨.acts next _ rfl, by simp⟩⟩
      | call t =>
        refine ⟨_, _, [], rfl, .still (by cases c <;> rfl) rfl ?_,
          Or.inl ⟨.acts next _ rfl, by simp⟩⟩
        simp [past, Kernel.proceed, act, ask, later, Event.loop?]
      | emit e =>
        refine ⟨_, _, [e], rfl, ⟨by cases c <;> rfl, rfl, ?_⟩, Or.inl ⟨.acts next _ rfl, by simp⟩⟩
        simp [past, Kernel.proceed, act, atOnce, Event.loop?]
  | joined f next =>
    refine Or.inr ?_
    simp only [Kernel.proceed]
    cases landed : k.landing? f with
    | some o => exact ⟨_, _, [], rfl, .refl k c, Or.inl ⟨.resumes next f o, by simp [landed]⟩⟩
    | none =>
      exact ⟨_, _, [], rfl, .refl k c, Or.inr ⟨⟨f, next, rfl, landed⟩, rfl, rfl⟩⟩
  | stopping p next =>
    refine Or.inr ?_
    simp only [Kernel.proceed]
    cases ended : p.outcome? with
    | some o => exact ⟨_, _, [], rfl, .refl k c, Or.inl ⟨.stopped next o ended, by simp⟩⟩
    | none =>
      obtain ⟨wake, q, leads, goes⟩ :=
        k.takeTurn_leads (.stopping · next) (StopPhase.turn_ne_finished ended)
      exact ⟨wake, _, [], goes, k.takeTurn_still c _ _, Or.inl ⟨.turns next leads, by simp⟩⟩
  | flying f p => exact serves.elim

/-- A step of a strand that belongs to the other loop or to none is nothing to a loop, unless
both loops look for work after it. -/
theorem proceed_foreign (k : Kernel σ) {loop : Option RequestChannel} {w : Work}
    (other : loop ≠ some c) (stays : w.Stays loop) :
    ∃ j, k.Sends c [] j ∧ ((k.proceed loop w).2 = j ∨ (k.proceed loop w).2 = j.feed) := by
  have still (same : k.Sends c [] (k.proceed loop w).2) :
      ∃ j, k.Sends c [] j ∧ ((k.proceed loop w).2 = j ∨ (k.proceed loop w).2 = j.feed) :=
    ⟨_, same, Or.inl rfl⟩
  cases w with
  | job j =>
    cases j with
    | done f =>
      have away : f.loop? ≠ some c := fun same => other (stays ▸ same)
      have released {d : RequestChannel} (there : d ≠ c) {i : Kernel σ} (same : k.Sends c [] i)
          (q : Request) (v : Verdict) :
          ∃ j, k.Sends c [] j ∧ (i.release d q v = j ∨ i.release d q v = j.feed) :=
        ⟨(i.withLane d (i.lane d).release).note (.served d q v),
          .still (by simp [there, same.lane]) (by simp [same.works])
            (by simp [Event.loop?, there, same.past]), Or.inr rfl⟩
      cases f with
      | shell q s v =>
        have there : RequestChannel.shell ≠ c := fun same => away (congrArg some same)
        exact released there (i := { k with session := s })
          (.still (by cases c <;> rfl) rfl rfl) q v
      | control q v =>
        have there : RequestChannel.control ≠ c := fun same => away (congrArg some same)
        exact released there (.refl k c) q v
      | call tag result =>
        have past : (k.proceed loop (.job (.done (.call tag result)))).2.past c = k.past c := by
          simp [Kernel.proceed, Kernel.finish, Event.loop?]
        exact still (.still (note_lane ..) rfl past)
    | act a next =>
      cases a with
      | restart =>
        refine still ?_
        simp only [Kernel.proceed, act, atOnce]
        split
        · exact .still (by cases c <;> rfl) (by simp) rfl
        · exact .still (by cases c <;> rfl) rfl rfl
      | call t =>
        exact still (.still (by cases c <;> rfl) rfl
          (by simp [past, Kernel.proceed, act, ask, later, Event.loop?]))
      | emit e =>
        exact still (.still (by cases c <;> rfl) rfl
          (by simp [past, Kernel.proceed, act, atOnce, Event.loop?, other]))
      | stop => exact still (.refl k c)
      | generation => exact still (.refl k c)
      | lease => exact still (.refl k c)
      | leave => exact still (.still (by cases c <;> rfl) rfl rfl)
  | joined f next =>
    refine still ?_
    simp only [Kernel.proceed]
    split
    · exact .refl k c
    · exact .refl k c
  | stopping p next =>
    refine still ?_
    simp only [Kernel.proceed]
    split
    · exact .refl k c
    · exact k.takeTurn_still c _ _
  | flying f p =>
    refine still ?_
    simp only [Kernel.proceed]
    split
    · exact .still (by cases c <;> rfl) rfl rfl
    · exact k.takeTurn_still c _ _

/-- A step of the strand that serves a request keeps the loop in order. -/
theorem LoopIs.proceed {w : Work} (h : k.LoopIs c arrived [w])
    (wired : ∀ r ∈ arrived, ∃ m, Request.ofMessage m = .ok r) :
    (k.proceed (some c) w).2.LoopIs c arrived (k.proceed (some c) w).works := by
  obtain ⟨_, _, _, _, _, serves, _⟩ := h.serving
  rcases k.proceed_own serves with ⟨f, rfl⟩ | ⟨wake, next, es, goes, sends, turn⟩
  · exact h.finish wired
  · rw [show (k.proceed (some c) w).works = [next] by simp [Continuation.works, goes]]
    rcases turn with ⟨turn, _⟩ | ⟨_, rfl, rfl⟩
    · exact h.goOn sends (fun _ _ => turn.serves) fun takes => (turn.takes takes).mono (by decide)
    · exact h.goOn sends (fun _ _ served => by rwa [List.append_nil]) id

/-- A step of a strand that belongs to the other loop or to none. -/
theorem LoopIs.foreign {loop : Option RequestChannel} {w : Work} (h : k.LoopIs c arrived more)
    (other : loop ≠ some c) (stays : w.Stays loop)
    (wired : ∀ r ∈ arrived, ∃ m, Request.ofMessage m = .ok r) :
    (k.proceed loop w).2.LoopIs c arrived more := by
  obtain ⟨j, same, stepped | fed⟩ := k.proceed_foreign other stays
  · rw [stepped]
    exact h.congr same
  · rw [fed]
    exact ((h.congr same).feedLane wired .control).feedLane wired .shell

theorem worksOf_strand (next : Continuation σ) (loop : Option RequestChannel) :
    worksOf c (next.strand loop) = if loop = some c then next.works else [] := by
  unfold Continuation.strand Continuation.works
  cases next.1 with
  | none => simp
  | some x => simp

theorem LoopIs.resume {before after : List Strand} {s : Strand}
    (h : k.LoopIs c arrived []) (strands : k.strands = before ++ s :: after)
    (orderly : k.Orderly) (wired : ∀ r ∈ arrived, ∃ m, Request.ofMessage m = .ok r) :
    (k.resume before s after).LoopIs c arrived [] := by
  have works : worksOf c k.strands = worksOf c before ++
      (if s.loop = some c then [s.work] else []) ++ worksOf c after := by simp [strands]
  unfold LoopIs at h ⊢
  rw [List.nil_append, works] at h
  rw [List.nil_append, resume_lane, past, resume_journal, resume_strands]
  simp only [worksOf_append, worksOf_strand]
  by_cases own : s.loop = some c
  · -- The loop has only this one strand.
    have alone : worksOf c before = [] ∧ worksOf c after = [] := by
      have few := h.one_strand
      simp only [if_pos own, List.length_append, List.length_singleton] at few
      exact ⟨List.length_eq_zero_iff.mp (by omega), List.length_eq_zero_iff.mp (by omega)⟩
    rw [if_pos own, alone.1, alone.2, List.nil_append, List.append_nil] at h ⊢
    have start : k.bare.LoopIs c arrived [s.work] := by simpa [LoopIs, past] using h
    rw [stepped, own]
    exact start.proceed wired
  · rw [if_neg own, List.append_nil] at h ⊢
    have start : k.bare.LoopIs c arrived (worksOf c before ++ worksOf c after) := by
      simpa [LoopIs, past] using h
    exact start.foreign own (orderly s (by simp [strands])) wired

theorem LoopIs.enqueue (h : k.LoopIs c arrived []) (r : Request) :
    (k.enqueue c r).LoopIs c (arrived ++ [r]) [] := by
  have longer := Loop.arrives h r
  unfold Kernel.enqueue
  by_cases ended : (k.lane c).ended = true
  · rw [if_pos ended] at longer ⊢
    exact longer
  · rw [if_neg ended] at longer ⊢
    refine .of_loop longer ?_ ?_ ?_
    · simp
    · simp
    · simp

theorem arrivals_snoc (past : List (Move σ)) (m : Move σ) :
    arrivals c (past ++ [m]) = arrivals c past ++ (m.arrival? c).toList := by
  rw [arrivals_append]
  cases h : m.arrival? c <;> simp [arrivals, h]

/-- Only requests off the wire arrive. -/
theorem arrivals_wired (moves : List (Move σ)) :
    ∀ r ∈ arrivals c moves, ∃ m, Request.ofMessage m = .ok r := by
  intro r hr
  obtain ⟨move, _, arrived⟩ := List.mem_filterMap.mp hr
  cases move with
  | arrive d m =>
    refine ⟨m, ?_⟩
    simp only [Move.arrival?] at arrived
    split at arrived
    · cases read : Request.ofMessage m with
      | error e => simp [read, Except.toOption] at arrived
      | ok q =>
        rw [read] at arrived
        cases arrived
        rfl
    · cases arrived
  | _ => cases arrived

/-- A message arrives, for this loop or for the other one. -/
theorem LoopIs.arrive (h : k.LoopIs c arrived []) (d : RequestChannel) (m : Message) :
    (k.move (.arrive d m)).LoopIs c
      (arrived ++ ((Move.arrive d m : Move σ).arrival? c).toList) [] := by
  simp only [Kernel.move, Move.arrival?]
  cases read : Request.ofMessage m with
  | error e => simpa [Except.toOption] using h
  | ok r =>
    by_cases same : d = c
    · subst d
      simpa [Except.toOption] using h.enqueue r
    · simp only [if_neg same, Option.toList_none, List.append_nil]
      unfold Kernel.enqueue
      split
      · exact h
      · exact h.congr (.still (by simp [same]) (by simp) (by simp))

theorem LoopIs.raise (h : k.LoopIs c arrived []) (exits : List Nat) :
    { k with exits := exits }.raise.LoopIs c arrived [] :=
  h.congr (.still (by cases c <;> rfl) rfl (by simp [Kernel.raise, past, Event.loop?]))

/-- Each move keeps the loops in order, whichever loop or strand it is about. -/
theorem LoopIs.move (h : k.LoopIs c arrived []) (orderly : k.Orderly)
    (wired : ∀ r ∈ arrived, ∃ m, Request.ofMessage m = .ok r) (m : Move σ) :
    (k.move m).LoopIs c (arrived ++ (m.arrival? c).toList) [] := by
  have still {j : Kernel σ} (h : j.LoopIs c arrived []) :
      j.LoopIs c (arrived ++ (none : Option Request).toList) [] := by
    rwa [Option.toList_none, List.append_nil]
  cases m with
  | arrive d m => exact h.arrive d m
  | look d => exact still (h.feedLane wired d)
  | go i =>
    refine still ?_
    simp only [Kernel.move]
    split
    · rename_i s found
      obtain ⟨bound, rfl⟩ := List.getElem?_eq_some_iff.mp found
      exact h.resume (by simp) orderly wired
    · exact h
  | restart tag =>
    exact still (h.congr (.still (by cases c <;> rfl) (by simp [Kernel.move, Kernel.restart]) rfl))
  | stop tag =>
    exact still (h.congr (.still (by cases c <;> rfl) (by simp [Kernel.move, Kernel.stop]) rfl))
  | raise => exact still (h.raise k.exits)
  | leave t =>
    refine still ?_
    simp only [Kernel.move]
    split
    · exact h.raise _
    · exact h
  | wait t => exact still h
  | change tooling => exact still h

theorem play_loop (config : KernelConfig) (backend : Backend σ) (tooling : σ) (obedient : Bool)
    (moves : List (Move σ)) (c : RequestChannel) :
    ((new config backend tooling obedient).play moves).LoopIs c (arrivals c moves) [] := by
  have start : (new config backend tooling obedient).LoopIs c [] [] := by
    have idle : (new config backend tooling obedient).lane c = .idle := by cases c <;> rfl
    exact .of_loop (.free [] [] (by simp)) idle rfl rfl
  refine play_keeps_orderly (P := fun past k => k.LoopIs c (arrivals c past) [])
    (new_orderly config backend tooling obedient) start ?_ moves
  intro past m orderly loop
  rw [arrivals_snoc]
  exact loop.move orderly (arrivals_wired past) m

end Kernel

end NotebookKernel
