import NotebookKernel.Proofs.CellLog
import NotebookKernel.Proofs.Solo
import NotebookKernel.Proofs.Twins

/-!
# Submissions to one session

As long as nobody replaces the tooling or shuts it down, all calls of the shell are about the
session that is live. The log of the cells that have been submitted says which calls there may be:
the setup cell and cells of the log are compiled, and completions are asked for in a cell with the
number that comes next. Every job of the shell keeps to the log, and so does every run of it.
-/

namespace NotebookKernel

open Job

/-! ## Actions and the log -/

/-- The action that an event tells of. -/
def Event.action? : Event → Option Action
  | sent _ e => some (.emit e)
  | called c _ => some (.call c)
  | _ => none

/-- What has been sent and called, the oldest first. -/
def actionsIn (es : List Event) : List Action := es.filterMap Event.action?

/-- The cell that is submitted by an action. Everyone is told its code and its number. -/
def Action.submission? (naming : ModuleNaming) : Action → Option Cell
  | emit (.broadcast _ (.executeInput code n)) => some (.make naming n code)
  | _ => none

/-- The log of the cells that have been submitted. -/
def submittedIn (naming : ModuleNaming) (as : List Action) : List Cell :=
  as.filterMap (Action.submission? naming)

/-- The world of the tooling after actions. -/
def Backend.after {σ : Type} (backend : Backend σ) (w : σ) (as : List Action) : σ :=
  as.foldl (fun w a => match a with
    | .call c => (backend c w).2
    | _ => w) w

/-- What stays the same while one session is live. -/
structure Notebook where
  naming : ModuleNaming
  setup : Cell
  lease : Lease

namespace Notebook

/-- The action keeps to the log. -/
def Allows (b : Notebook) (log : List Cell) : Action → Prop
  | .generation => True
  | .lease => True
  | .emit (.broadcast _ (.executeInput _ n)) => n = log.length
  | .emit _ => True
  | .call (.compile id cell) => id = b.lease.session ∧ (cell = b.setup ∨ cell ∈ log)
  | .call (.run id _) => id = b.lease.session
  | .call (.complete id cell _) =>
      id = b.lease.session ∧ ∃ text, cell = .make b.naming log.length text
  | .call (.inspect id _ _) => id = b.lease.session
  | _ => False

/-- Every action keeps to the log of the submissions before it. -/
inductive Accepts (b : Notebook) : List Action → Prop
  | nil : Accepts b []
  | snoc {as : List Action} {a : Action} (before : Accepts b as)
      (allowed : b.Allows (submittedIn b.naming as) a) : Accepts b (as ++ [a])

/-- What is found out while the session stays the live one. -/
def Holds (b : Notebook) : Occurrence → Prop
  | ⟨.generation, g⟩ => g = b.lease.generation
  | ⟨.lease, x⟩ => x = some b.lease
  | _ => True

end Notebook

@[simp] theorem actionsIn_append (es fs : List Event) :
    actionsIn (es ++ fs) = actionsIn es ++ actionsIn fs :=
  List.filterMap_append

@[simp] theorem submittedIn_append (naming : ModuleNaming) (as more : List Action) :
    submittedIn naming (as ++ more) = submittedIn naming as ++ submittedIn naming more :=
  List.filterMap_append

theorem Backend.after_append {σ : Type} (backend : Backend σ) (w : σ) (as more : List Action) :
    backend.after w (as ++ more) = backend.after (backend.after w as) more :=
  List.foldl_append

theorem submittedIn_singleton (naming : ModuleNaming) (a : Action) :
    submittedIn naming [a] = (a.submission? naming).toList := by
  cases found : a.submission? naming with
  | none => simp [submittedIn, found]
  | some cell => simp [submittedIn, found]

theorem Action.submission_some {naming : ModuleNaming} {a : Action} {cell : Cell}
    (submits : a.submission? naming = some cell) :
    ∃ r code n, a = .emit (.broadcast r (.executeInput code n)) ∧ cell = .make naming n code := by
  unfold submission? at submits
  split at submits
  · exact ⟨_, _, _, rfl, (Option.some.inj submits).symm⟩
  · cases submits

/-- Cells of the log are made of their numbers and their sources. -/
theorem submitted_made {naming : ModuleNaming} {as : List Action} {cell : Cell}
    (member : cell ∈ submittedIn naming as) : cell = .make naming cell.sequence cell.source := by
  obtain ⟨a, -, submits⟩ := List.mem_filterMap.mp member
  obtain ⟨r, code, n, -, rfl⟩ := Action.submission_some submits
  rfl

/-- An element of a list that has grown at its end is the last one, or it was there before. -/
theorem stands_snoc {α : Type} {before after as : List α} {x a : α}
    (whole : before ++ x :: after = as ++ [a]) :
    (before = as ∧ x = a) ∨ ∃ more, before ++ x :: more = as := by
  rcases List.eq_nil_or_concat after with rfl | ⟨more, final, rfl⟩
  · obtain ⟨same, last⟩ := List.append_inj' whole rfl
    exact .inl ⟨same, List.singleton_inj.mp last⟩
  · rw [List.concat_eq_append, ← List.cons_append, ← List.append_assoc] at whole
    obtain ⟨same, -⟩ := List.append_inj' whole rfl
    exact .inr ⟨more, same⟩

namespace Notebook.Accepts

variable {b : Notebook} {as before after : List Action} {a : Action}

theorem split (h : b.Accepts (before ++ a :: after)) :
    b.Accepts before ∧ b.Allows (submittedIn b.naming before) a := by
  generalize whole : before ++ a :: after = as at h
  induction h generalizing after with
  | nil => simp at whole
  | snoc past allowed ih =>
    obtain ⟨rfl, rfl⟩ | ⟨more, earlier⟩ := stands_snoc whole
    · exact ⟨past, allowed⟩
    · exact ih earlier

/-- The cells of the log are numbered in their order. -/
theorem sequences (h : b.Accepts as) :
    (submittedIn b.naming as).map (·.sequence) =
      (List.range (submittedIn b.naming as).length).map Int.ofNat := by
  induction h with
  | nil => rfl
  | @snoc as a _ allowed ih =>
    rw [submittedIn_append, submittedIn_singleton]
    cases submits : a.submission? b.naming with
    | none => simpa using ih
    | some cell =>
      obtain ⟨r, code, n, rfl, rfl⟩ := Action.submission_some submits
      obtain rfl : n = (submittedIn b.naming as).length := allowed
      rw [List.map_append, ih, Option.toList_some, List.length_append, List.length_singleton,
        List.range_succ, List.map_append]
      rfl

theorem sequence_lt (h : b.Accepts as) {cell : Cell} (member : cell ∈ submittedIn b.naming as) :
    0 ≤ cell.sequence ∧ cell.sequence < (submittedIn b.naming as).length := by
  have number := List.mem_map_of_mem (f := (·.sequence)) member
  rw [h.sequences] at number
  obtain ⟨n, below, same⟩ := List.mem_map.mp number
  rw [← same]
  exact ⟨Int.natCast_nonneg n, Int.ofNat_lt.mpr (List.mem_range.mp below)⟩

/-- A number of the log stands for one cell. -/
theorem sequence_injective (h : b.Accepts as) {cell cell' : Cell}
    (member : cell ∈ submittedIn b.naming as) (member' : cell' ∈ submittedIn b.naming as)
    (same : cell.sequence = cell'.sequence) : cell = cell' := by
  have distinct : ((submittedIn b.naming as).map (·.sequence)).Nodup := by
    rw [h.sequences]
    exact List.Nodup.map (fun _ _ => Int.ofNat.inj) List.nodup_range
  exact List.inj_on_of_nodup_map distinct member member' same

end Notebook.Accepts

/-! ## Jobs that keep to the log -/

/-- While the session stays the live one, all that the job does keeps to the log, and it ends
well. -/
def Job.Follows {α : Type} (b : Notebook) (good : α → List Cell → Prop) :
    Job α → List Cell → Prop
  | .done a, log => good a log
  | .act a next, log => b.Allows log a ∧ ∀ x, b.Holds ⟨a, x⟩ →
      (next x).Follows b good (log ++ (a.submission? b.naming).toList)

theorem Job.Follows.bind {α β : Type} {b : Notebook} {good : α → List Cell → Prop}
    {fine : β → List Cell → Prop} {j : Job α} {f : α → Job β} {log : List Cell}
    (h : j.Follows b good log) (sequel : ∀ a log, good a log → (f a).Follows b fine log) :
    (j.bind f).Follows b fine log := by
  induction j generalizing log with
  | done a => exact sequel a log h
  | act a next ih => exact ⟨h.1, fun x holds => ih x (h.2 x holds)⟩

/-- An action that submits nothing. -/
theorem Job.Follows.quietly {α : Type} {b : Notebook} {good : α → List Cell → Prop} {a : Action}
    {next : a.Answer → Job α} {log : List Cell} (allowed : b.Allows log a)
    (silent : a.submission? b.naming = none)
    (rest : ∀ x, b.Holds ⟨a, x⟩ → (next x).Follows b good log) :
    (Job.act a next).Follows b good log := by
  refine ⟨allowed, fun x holds => ?_⟩
  rw [silent, Option.toList_none, List.append_nil]
  exact rest x holds

namespace Session

variable {b : Notebook} {s : Session} {r : Request} {log : List Cell}

/-- The session has what is in the log, and edits the cell that comes next. -/
structure Tends (b : Notebook) (log : List Cell) (s : Session) : Prop where
  generation : s.generation = b.lease.generation
  drafted : ∃ draft, s.cells.Drafted b.naming draft
  submitted : s.cells.submitted = log
  setup : s.cells.setup = b.setup

/-- The session that a job leaves behind. -/
def TendsAfter (b : Notebook) (x : Session × Verdict) (log : List Cell) : Prop := x.1.Tends b log

theorem Tends.update (h : s.Tends b log) (text : String) :
    ({ s with cells := s.cells.update text } : Session).Tends b log ∧
      (s.cells.update text).current = .make b.naming log.length text := by
  obtain ⟨draft, drafted⟩ := h.drafted
  have next := drafted.update text
  have kept := (CellStore.update_submitted s.cells text).trans h.submitted
  refine ⟨⟨h.generation, ⟨text, next⟩, kept, ?_⟩, ?_⟩
  · exact (CellStore.update_setup s.cells text).trans h.setup
  · rw [next.current, kept]

theorem Tends.submit (h : s.Tends b log) (owed : Option Int) :
    ({ s with cells := s.cells.submit.2, owed := owed } : Session).Tends b
      (log ++ [s.cells.current]) := by
  obtain ⟨draft, drafted⟩ := h.drafted
  exact ⟨h.generation, ⟨"", drafted.submit⟩, congrArg (· ++ [s.cells.current]) h.submitted, h.setup⟩

theorem lease_follows (h : s.Tends b log) :
    s.lease.Follows b (fun x log' => x = (s, some b.lease.session) ∧ log' = log) log := by
  refine .quietly trivial rfl fun x holds => ?_
  obtain rfl : x = some b.lease := holds
  have present : b.lease.generation = s.generation := h.generation.symm
  simp only [Job.bind, if_pos present]
  exact ⟨rfl, rfl⟩

/-- A reply of another kind than the input of an execution, and the end. -/
theorem reply_follows (h : s.Tends b log) (p : Payload) (v : Verdict) :
    ((reply r p).bind fun _ => done (s, v)).Follows b (TendsAfter b) log :=
  .quietly trivial rfl fun _ _ => h

theorem ensureSetup_follows (h : s.Tends b log) :
    (s.ensureSetup r b.lease.session).Follows b (fun x log' => x.1.Tends b log ∧ log' = log)
      log := by
  unfold ensureSetup
  have built : ({ s with setupBuilt := true } : Session).Tends b log :=
    ⟨h.generation, h.drafted, h.submitted, h.setup⟩
  split
  · exact ⟨h, rfl⟩
  · split
    · exact ⟨built, rfl⟩
    · refine .quietly trivial rfl fun _ _ => ?_
      refine .quietly ⟨rfl, .inl h.setup⟩ rfl fun x _ => ?_
      cases x with
      | failed e => exact ⟨h, rfl⟩
      | crashed m => exact ⟨h, rfl⟩
      | value artifact => exact .quietly trivial rfl fun _ _ => ⟨built, rfl⟩

theorem compileAndRun_follows {cell : Cell} (member : cell ∈ log) :
    (compileAndRun r b.lease.session cell).Follows b (fun _ log' => log' = log) log := by
  unfold compileAndRun
  split
  · rfl
  · refine .quietly trivial rfl fun _ _ => ?_
    refine .quietly ⟨rfl, .inr member⟩ rfl fun x _ => ?_
    cases x with
    | failed e => rfl
    | crashed m => rfl
    | value artifact =>
      refine .quietly trivial rfl fun _ _ => ?_
      exact .quietly rfl rfl fun _ _ => rfl

theorem build_follows {cell : Cell} (h : s.Tends b log) (member : cell ∈ log) :
    (s.build r b.lease.session cell).Follows b (fun x log' => x.1.Tends b log ∧ log' = log)
      log := by
  refine (ensureSetup_follows h).bind fun x log' after => ?_
  obtain ⟨t, o⟩ := x
  obtain ⟨tends, rfl⟩ := after
  cases o with
  | failed e => exact ⟨tends, rfl⟩
  | crashed m => exact ⟨tends, rfl⟩
  | value _ =>
    exact (compileAndRun_follows member).bind fun _ log' same => ⟨same ▸ tends, same⟩

theorem reportFailure_follows (log : List Cell) (n : Int) (e : ErrorContent) :
    (reportFailure r n e).Follows b (fun _ log' => log' = log) log :=
  .quietly trivial rfl fun _ _ => .quietly trivial rfl fun _ _ => rfl

theorem abandon_follows (h : s.Tends b log) (e : KernelError) :
    (s.abandon r e).Follows b (fun t log' => t.Tends b log') log := by
  unfold abandon
  cases s.owed with
  | none => exact h
  | some count =>
    refine (reportFailure_follows _ _ _).bind fun _ log' same => ?_
    subst same
    exact ⟨h.generation, h.drafted, h.submitted, h.setup⟩

theorem execute_follows (h : s.Tends b log) (code : String) :
    (s.execute r code).Follows b (TendsAfter b) log := by
  refine (lease_follows h).bind fun x log' leased => ?_
  obtain ⟨rfl, rfl⟩ := leased
  obtain ⟨updated, current⟩ := h.update code
  let cell := (s.cells.update code).current
  have tends := updated.submit (some cell.sequence)
  have number : cell.sequence = log'.length := congrArg Cell.sequence current
  have made : Cell.make b.naming cell.sequence code = cell := by rw [number, ← current]
  -- the input of the execution is what puts the cell into the log
  refine ⟨number, fun _ _ => ?_⟩
  change Job.Follows b _ _ (log' ++ [Cell.make b.naming cell.sequence code])
  rw [made]
  refine (build_follows tends (by simp)).bind fun x log after => ?_
  obtain ⟨t, o⟩ := x
  obtain ⟨tends, rfl⟩ := after
  have paid : ({ t with owed := none } : Session).Tends b _ :=
    ⟨tends.generation, tends.drafted, tends.submitted, tends.setup⟩
  cases o with
  | value data => exact .quietly trivial rfl fun _ _ => .quietly trivial rfl fun _ _ => paid
  | failed e => exact (reportFailure_follows _ _ _).bind fun _ _ same => same ▸ paid
  | crashed m =>
    refine Job.Follows.bind (j := t.abandon r _) (abandon_follows tends _) fun _ _ after => after

theorem Tells.follows {p : Option Payload} {j : Job (Session × Verdict)} (tells : Tells r s p j)
    (h : s.Tends b log) : j.Follows b (TendsAfter b) log := by
  cases tells with
  | replies p => exact reply_follows h _ _
  | crashes m => exact h

/-- A question keeps to the log, if its call does. -/
theorem Asks.follows {q : Question} {ask : Session → Job (Session × Verdict)} (asks : Asks r q ask)
    (h : s.Tends b log)
    (allowed : b.Allows log (.call (q.call b.lease.session (s.cells.update q.code).current))) :
    (ask s).Follows b (TendsAfter b) log := by
  obtain ⟨j, same, -, some⟩ := asks
  rw [same]
  refine (lease_follows h).bind fun x log' leased => ?_
  obtain ⟨rfl, rfl⟩ := leased
  obtain ⟨rest, called, tells⟩ := some s b.lease.session
  obtain ⟨updated, -⟩ := h.update q.code
  rw [called]
  exact .quietly allowed rfl fun x _ => (tells x).follows updated

theorem serve_follows (h : s.Tends b log) {service : Service} (stays : service ≠ .shutdown) :
    (s.serve r service).Follows b (TendsAfter b) log := by
  cases service with
  | kernelInfo => exact reply_follows h _ _
  | history => exact reply_follows h _ _
  | execute =>
    simp only [serve]
    cases r.content with
    | execute code => exact execute_follows h code
    | _ => exact h
  | complete =>
    simp only [serve]
    cases r.content with
    | complete code cursor =>
      exact (complete_asks r code cursor).follows h ⟨rfl, code, (h.update code).2⟩
    | _ => exact h
  | inspect =>
    simp only [serve]
    cases r.content with
    | inspect code cursor detail => exact (inspect_asks r code cursor).follows h rfl
    | _ => exact h
  | shutdown => exact absurd rfl stays

/-- A request that does not shut the tooling down keeps to the log. -/
theorem process_follows (h : (s.adopt b.lease.generation).Tends b log)
    (stays : r.msgType ≠ Service.shutdown.msgType) :
    (s.process r).Follows b (TendsAfter b) log := by
  rw [process_eq]
  refine .quietly trivial rfl fun g holds => ?_
  obtain rfl : g = b.lease.generation := holds
  unfold handle
  cases routed : Service.find? .shell r.msgType with
  | none => exact h
  | some service =>
    have served : ((s.adopt b.lease.generation).serve r service).Follows b (TendsAfter b) log := by
      refine serve_follows h ?_
      rintro rfl
      exact stays (Service.msgType_of_find routed)
    refine .quietly trivial rfl fun _ _ => served.bind fun _ log tends => ?_
    exact .quietly trivial rfl fun _ _ => tends

end Session

/-! ## Runs of the shell -/

namespace Kernel

variable {σ : Type} {b : Notebook} {k k' base j : Kernel σ} {r : Request} {rs : List Request}

/-- What has been sent and called since the journal had so many events. -/
def since (n : Nat) (k : Kernel σ) : List Action := actionsIn (k.journal.drop n)

/-- From some point on everything kept to the log, on one live session, and only the calls have
changed the world of the tooling. -/
structure Tended (b : Notebook) (backend : Backend σ) (w : σ) (n : Nat) (k : Kernel σ) :
    Prop where
  tooling : k.backend = backend
  live : k.supervisor.lease? = some b.lease
  generation : k.supervisor.generation = b.lease.generation
  old : n ≤ k.journal.length
  world : k.tooling = backend.after w (k.since n)
  accepted : b.Accepts (k.since n)

/-- The cells that have been submitted since then. -/
def log (b : Notebook) (n : Nat) (k : Kernel σ) : List Cell := submittedIn b.naming (k.since n)

variable {backend : Backend σ} {w : σ} {n : Nat}

theorem since_note (old : n ≤ k.journal.length) (e : Event) :
    (k.note e).since n = k.since n ++ e.action?.toList := by
  change actionsIn ((k.journal ++ [e]).drop n) = _
  rw [List.drop_append_of_le_length old, actionsIn_append]
  cases told : e.action? with
  | none => simp [since, actionsIn, told]
  | some a => simp [since, actionsIn, told]

/-- An event that tells of no action. -/
theorem Tended.aside (h : k.Tended b backend w n) {e : Event} (aside : e.action? = none) :
    (k.note e).Tended b backend w n ∧ (k.note e).log b n = k.log b n := by
  have same : (k.note e).since n = k.since n := by
    rw [since_note h.old, aside, Option.toList_none, List.append_nil]
  refine ⟨⟨h.tooling, h.live, h.generation, ?_, ?_, same ▸ h.accepted⟩, ?_⟩
  · exact Nat.le_trans h.old (by simp [note])
  · rw [same]
    exact h.world
  · rw [log, same, log]

/-- An event that tells of an action which keeps to the log. -/
theorem Tended.acts (h : k.Tended b backend w n) {e : Event} {a : Action}
    (told : e.action? = some a) (allowed : b.Allows (k.log b n) a) :
    let next := { k with tooling := backend.after k.tooling [a] }.note e
    next.Tended b backend w n ∧
      next.log b n = k.log b n ++ (a.submission? b.naming).toList := by
  intro next
  have added : next.since n = k.since n ++ [a] := by
    have old : n ≤ ({ k with tooling := backend.after k.tooling [a] } : Kernel σ).journal.length :=
      h.old
    rw [since_note old, told, Option.toList_some]
    rfl
  refine ⟨⟨h.tooling, h.live, h.generation, ?_, ?_, ?_⟩, ?_⟩
  · exact Nat.le_trans h.old (by simp [next, note])
  · rw [added, Backend.after_append, ← h.world]
    rfl
  · rw [added]
    exact .snoc h.accepted allowed
  · rw [log, added, submittedIn_append, submittedIn_singleton, log]

/-- The answer to an action that keeps to the log. -/
theorem Answers.tended {a : Action} {x : a.Answer} (answers : Answers k a x k')
    (h : k.Tended b backend w n) (allowed : b.Allows (k.log b n) a) :
    b.Holds ⟨a, x⟩ ∧ k'.Tended b backend w n ∧
      k'.log b n = k.log b n ++ (a.submission? b.naming).toList := by
  cases answers with
  | generation => exact ⟨h.generation, h, (List.append_nil _).symm⟩
  | lease => exact ⟨h.live, h, (List.append_nil _).symm⟩
  | emit e => exact ⟨trivial, h.acts rfl allowed⟩
  | call c =>
    obtain rfl := h.tooling
    exact ⟨trivial, h.acts rfl allowed⟩
  | leave => exact allowed.elim
  | stop => exact allowed.elim
  | restart => exact allowed.elim
  | joined => exact allowed.elim

/-- A job that keeps to the log goes on. -/
theorem Comes.tended {α : Type} {good : α → List Cell → Prop} {i i' : Job α}
    (comes : Comes k i k' i') (h : k.Tended b backend w n)
    (follows : i.Follows b good (k.log b n)) :
    k'.Tended b backend w n ∧ i'.Follows b good (k'.log b n) := by
  induction comes with
  | here => exact ⟨h, follows⟩
  | act answers _ ih =>
    obtain ⟨holds, tended, extended⟩ := answers.tended h follows.1
    refine ih tended ?_
    rw [extended]
    exact follows.2 _ holds

/-- Between requests the session of the shell has what is in the log. -/
structure Rests (b : Notebook) (backend : Backend σ) (w : σ) (n : Nat) (k : Kernel σ) : Prop where
  tended : k.Tended b backend w n
  session : (k.session.adopt b.lease.generation).Tends b (k.log b n)

/-- How a request begins. -/
theorem Rests.begin (h : k.Rests b backend w n) (stays : r.msgType ≠ Service.shutdown.msgType) :
    (k.note (.begun .shell r)).Tended b backend w n ∧
      (k.session.process r).Follows b (Session.TendsAfter b)
        ((k.note (.begun .shell r)).log b n) := by
  obtain ⟨tended, same⟩ := h.tended.aside (e := .begun .shell r) rfl
  refine ⟨tended, ?_⟩
  rw [same]
  exact Session.process_follows h.session stays

/-- Requests that do not shut the tooling down are served. -/
theorem Serves.rests (serves : Serves k rs k') (h : k.Rests b backend w n)
    (stay : ∀ r ∈ rs, r.msgType ≠ Service.shutdown.msgType) : k'.Rests b backend w n := by
  induction serves with
  | nil => exact h
  | @cons k k' _ r rest s v comes _ ih =>
    obtain ⟨begun, follows⟩ := h.begin (stay r List.mem_cons_self)
    obtain ⟨tended, tends⟩ := comes.tended begun follows
    have put : ({ k' with session := s } : Kernel σ).Tended b backend w n :=
      ⟨tended.tooling, tended.live, tended.generation, tended.old, tended.world, tended.accepted⟩
    obtain ⟨served, same⟩ := put.aside (e := .served .shell r v) rfl
    refine ih ⟨served, ?_⟩ fun q member => stay q (List.mem_cons_of_mem r member)
    have left : s.Tends b (k'.log b n) := tends
    change (s.adopt b.lease.generation).Tends b _
    rw [same, Session.adopt, if_pos left.generation]
    exact left

/-- What the shell has come to with a request is what a job has come to that kept to the log. -/
theorem Underway.tended (underway : Underway r base j) (h : base.Rests b backend w n)
    (stays : r.msgType ≠ Service.shutdown.msgType) : j.core.Tended b backend w n := by
  obtain ⟨begun, follows⟩ := h.begin stays
  cases underway with
  | job comes => exact (comes.tended begun follows).1
  | stopping comes => exact (comes.tended begun follows).2.1.elim
  | flying comes => exact (comes.tended begun follows).2.1.elim
  | landed comes => exact (comes.tended begun follows).2.1.elim

/-- However the moves of the shell are scheduled, everything keeps to the log. -/
theorem play_tended (proper : k.Proper) (quiet : k.Quiet) (rests : k.core.Rests b backend w n)
    (moves : List (Move σ)) (own : ∀ m ∈ moves, m.OfShell)
    (stay : ∀ r ∈ k.awaiting moves, r.msgType ≠ Service.shutdown.msgType) :
    (k.play moves).core.Tended b backend w n ∧
      ((k.play moves).shell.busy = false → (k.play moves).core.Rests b backend w n) := by
  obtain ⟨served, base, serves, ⟨-, -, rfl, same⟩ | ⟨busy, r, same, underway⟩⟩ :=
    (play_alone proper quiet moves own).stage
  · have past := serves.rests rests fun r member => stay r (by simp [same, member])
    exact ⟨past.tended, fun _ => past⟩
  · have past := serves.rests rests fun r member => stay r (by simp [same, member])
    refine ⟨underway.tended past (stay r (by simp [same])), ?_⟩
    rw [busy]
    exact Bool.noConfusion

end Kernel

end NotebookKernel
