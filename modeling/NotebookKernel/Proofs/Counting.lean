import NotebookKernel.Proofs.Episodes

/-!
# The counts of executions

In each generation the executions that are accepted are numbered from zero on, in the order in
which they arrive and whatever becomes of them. The cells of the session are those that were
submitted in its generation. An execution that is refused shows the number that the next one will
get, and leaves no trace.
-/

namespace NotebookKernel

open Job

/-- The count that a message about an execution carries. -/
def Payload.count? : Payload → Option Int
  | .executeReply (.ok n _ _) => some n
  | .executeReply (.error n _) => some n
  | .executeInput _ n => some n
  | .executeResult n _ _ => some n
  | .error n _ => some n
  | _ => none

/-- The counts of messages, in their order. -/
def countsOf (sent : List Emission) : List Int := sent.filterMap fun m => m.payload.count?

@[simp] theorem countsOf_append (sent more : List Emission) :
    countsOf (sent ++ more) = countsOf sent ++ countsOf more := List.filterMap_append

/-- The code that the shell is asked to execute. -/
def Request.code? (r : Request) : Option String :=
  match Service.find? .shell r.msgType, r.content with
  | some .execute, .execute code => some code
  | _, _ => none

theorem Request.code_iff {r : Request} {code : String} :
    r.code? = some code ↔
      Service.find? .shell r.msgType = some .execute ∧ r.content = .execute code := by
  unfold Request.code?
  split
  · simp_all
  · rename_i other
    constructor
    · nofun
    · rintro ⟨routed, content⟩
      exact (other code routed content).elim

/-- An execution that was accepted: its code and the counts of the messages about it. -/
structure Execution where
  code : String
  counts : List Int

namespace Episode

/-- The execution that the request led to. It is accepted if there is a live session for it. -/
def execution? (e : Episode) : Option Execution :=
  if leasesIn e.did = [] then none
  else e.request.code?.map fun code => ⟨code, countsOf (sentIn e.did)⟩

/-- The execution was refused because the tooling is not running, with the next number. Nothing
was called, and nothing changed but that the session belongs to the present generation. -/
structure Refused (n : Nat) (e : Episode) : Prop where
  sent : sentIn e.did = [.broadcast e.request (.status true),
    .reply .shell e.request (.executeReply (.error n (Session.failure .notRunning))),
    .broadcast e.request (.status false)]
  calls : callsIn e.did = []
  kept : ∃ g, generationsIn e.did = [g] ∧ e.after = e.before.adopt g

end Episode

/-- The executions that were accepted in a generation. -/
def executions (g : Nat) (es : List Episode) : List Execution :=
  es.filterMap fun e => if e.after.generation = g then e.execution? else none

/-- The cells of executions, numbered from zero on. -/
def cellsOf (naming : ModuleNaming) (xs : List Execution) : List Cell :=
  xs.mapIdx fun n x => .make naming n x.code

theorem executions_append (g : Nat) (es more : List Episode) :
    executions g (es ++ more) = executions g es ++ executions g more := List.filterMap_append

@[simp] theorem cellsOf_append (naming : ModuleNaming) (xs : List Execution) (x : Execution) :
    cellsOf naming (xs ++ [x]) = cellsOf naming xs ++ [.make naming xs.length x.code] := by
  simp [cellsOf, List.mapIdx_append]

/-- The episode is counted after those before it. The session that it leaves holds the cells of
its generation and is about to give the next number. An execution that is accepted gets the number
of those before it in the generation, and one that is refused shows it. -/
structure Episode.Counted (config : KernelConfig) (before : List Episode) (e : Episode) :
    Prop where
  onwards : ∀ e' ∈ before, e'.after.generation ≤ e.after.generation
  cells : e.after.cells.submitted =
    cellsOf config.naming (executions e.after.generation (before ++ [e]))
  current : e.after.cells.current.sequence =
    (executions e.after.generation (before ++ [e])).length
  accepted : ∀ code, e.request.code? = some code → leasesIn e.did ≠ [] →
    let n := (executions e.after.generation before).length
    e.execution? = some ⟨code, [↑n, ↑n, ↑n]⟩ ∧
      ∃ told, sentIn e.did = .broadcast e.request (.status true) ::
        .broadcast e.request (.executeInput code n) :: told
  refused : ∀ code, e.request.code? = some code → leasesIn e.did = [] →
    e.execution? = none ∧ e.Refused (executions e.after.generation before).length

/-! ## What a request does to the session -/

theorem generationsIn_nil_of {t : List Occurrence} (h : ∀ o ∈ t, o.action ≠ .generation) :
    generationsIn t = [] := by
  refine List.filterMap_eq_nil_iff.mpr fun o member => ?_
  obtain ⟨a, x⟩ := o
  cases a with
  | generation => exact (h _ member rfl).elim
  | _ => rfl

namespace Session

variable {s s' : Session} {r : Request} {t : List Occurrence} {v : Verdict}

/-- The session after what was looked up. -/
abbrev seeing (s : Session) (t : List Occurrence) : Session := (generationsIn t).foldl adopt s

/-- Nothing is looked up after the live session was asked for. -/
theorem leased_runs {α : Type} {f : Session × Option SessionId → Job (Session × α)}
    {P : Session → Session → Prop} {x : Session × α} (run : (s.lease.bind f).Runs t x)
    (rest : ∀ s₁ c, (f (s₁, c)).Within (· ≠ .generation) fun x => P s₁ x.1) :
    P (s.seeing t) x.1 := by
  obtain ⟨t₁, ⟨s₁, c⟩, t₂, rfl, leasing, told⟩ := runs_bind.mp run
  obtain ⟨_, _, rfl, _⟩ := lease_runs leasing
  obtain ⟨unseen, kept⟩ := Goes.within told (rest _ c)
  rw [seeing, generationsIn_append, generationsIn_nil_of unseen, List.append_nil]
  exact kept

theorem lease_refused {s₁ : Session} (run : s.lease.Runs t (s₁, none)) :
    s₁ = s ∧ t = [⟨.lease, none⟩] := by
  simp only [lease, sync, pure_eq, bind_eq, perform, Job.bind, runs_act] at run
  obtain ⟨x, u, rfl, run⟩ := run
  cases x with
  | none =>
    obtain ⟨rfl, same⟩ := runs_done.mp run
    cases same
    exact ⟨rfl, rfl⟩
  | some l =>
    by_cases same : l.generation = s.generation
    · simp [same] at run
    · simp [same] at run

/-- The configuration and the generation stay. -/
def Stays (s s' : Session) : Prop := s'.config = s.config ∧ s'.generation = s.generation

theorem Edited.stays (h : s.Edited s') : s.Stays s' := by cases h <;> exact ⟨rfl, rfl⟩

theorem replied_edits {p : Payload} (h : s.Edited s') :
    ((reply r p).bind fun _ => done (s', (.ok () : Verdict))).Within (· ≠ .generation)
      fun x => s.Edited x.1 :=
  ⟨by simp, fun _ => h⟩

theorem execute_stays {code : String} (run : (s.execute r code).Runs t (s', v)) :
    (s.seeing t).Stays s' := by
  refine leased_runs run fun s₁ c => ?_
  cases c with
  | none => exact ⟨by simp, fun _ => ⟨rfl, rfl⟩⟩
  | some c =>
    refine ⟨by simp, fun _ => ?_⟩
    have building : Building r (· ≠ .generation) := ⟨by simp, by simp, by simp⟩
    refine (build_within _ c _ building).bind fun x frame => ?_
    obtain ⟨s₂, o⟩ := x
    have stays : s₁.Stays s₂ := by
      rw [show s₂ = _ from frame]
      exact ⟨rfl, rfl⟩
    cases o with
    | value data => exact ⟨by simp, fun _ => ⟨by simp, fun _ => stays⟩⟩
    | failed e => exact ⟨by simp, fun _ => ⟨by simp, fun _ => stays⟩⟩
    | crashed m =>
      have abandoned (e : KernelError) : (s₂.abandon r e).Within (· ≠ .generation) s₁.Stays := by
        unfold abandon
        cases s₂.owed with
        | none => exact stays
        | some n => exact ⟨by simp, fun _ => ⟨by simp, fun _ => stays⟩⟩
      exact (abandoned _).bind fun _ left => left

/-- An execution that found the tooling not running. -/
theorem execute_refused {code : String} (run : (s.execute r code).Runs t (s', v))
    (refused : leasesIn t = []) :
    t = [⟨.lease, none⟩, ⟨.emit (.reply .shell r (.executeReply
      (.error s.cells.current.sequence (failure .notRunning)))), ()⟩] ∧ s' = s := by
  obtain ⟨t₁, ⟨s₁, c⟩, t₂, rfl, leasing, told⟩ := runs_bind.mp run
  cases c with
  | none =>
    obtain ⟨rfl, rfl⟩ := lease_refused leasing
    simp only [reply, Job.reply, perform, bind_eq, Job.bind, pure_eq, runs_act, runs_done] at told
    obtain ⟨_, _, rfl, rfl, same⟩ := told
    cases same
    exact ⟨rfl, rfl⟩
  | some c =>
    obtain ⟨_, _, _, granted⟩ := lease_runs leasing
    rw [leasesIn_append, List.append_eq_nil_iff] at refused
    rw [refused.1] at granted
    cases granted

/-- A question leaves the session as it was, but for the text that is being edited. -/
theorem Asks.edited {q : Question} {ask : Session → Job (Session × Verdict)}
    (asks : Asks r q ask) (run : (ask s).Runs t (s', v)) : (s.seeing t).Edited s' := by
  obtain ⟨j, same, rest⟩ := asks.edits (· ≠ .generation) (by simp) (by simp) (by simp)
  rw [same] at run
  exact leased_runs run fun s₁ c => (rest (s₁, c)).mono (fun _ => id) fun _ => And.left

theorem shutDown_unseeing : (shutDown .shell r).Within (· ≠ .generation) fun _ => True := by
  refine ⟨by simp, fun o => ?_⟩
  cases o with
  | crashed m => trivial
  | stopped => exact ⟨by simp, fun _ => ⟨by simp, fun _ => trivial⟩⟩

/-- A request without an accepted execution changes nothing but the text of the current cell, once
the session belongs to what was looked up. -/
theorem serve_edits {service : Service} (run : (s.serve r service).Runs t (s', v))
    (none : service = .execute → leasesIn t = []) : (s.seeing t).Edited s' := by
  have quiet {j : Job (Session × Verdict)} (run : j.Runs t (s', v))
      (h : j.Within (· ≠ .generation) fun x => s.Edited x.1) : (s.seeing t).Edited s' := by
    obtain ⟨unseen, edited⟩ := Goes.within run h
    rw [seeing, generationsIn_nil_of unseen]
    exact edited
  cases service with
  | kernelInfo => exact quiet run (replied_edits .same)
  | history => exact quiet run (replied_edits .same)
  | execute =>
    cases content : r.content with
    | execute code =>
      simp only [serve, content] at run
      obtain ⟨rfl, rfl⟩ := execute_refused run (none rfl)
      exact .same
    | _ =>
      simp only [serve, content] at run
      exact quiet run .same
  | complete =>
    cases content : r.content with
    | complete code cursor =>
      simp only [serve, content] at run
      exact (complete_asks r _ _).edited run
    | _ =>
      simp only [serve, content] at run
      exact quiet run .same
  | inspect =>
    cases content : r.content with
    | inspect code cursor detail =>
      simp only [serve, content] at run
      exact (inspect_asks r _ _).edited run
    | _ =>
      simp only [serve, content] at run
      exact quiet run .same
  | shutdown =>
    cases content : r.content with
    | shutdown again =>
      cases again with
      | true =>
        simp only [serve, content, restartTooling, sync, perform, Job.reply, bind_eq, pure_eq,
          Job.bind, runs_act, runs_done] at run
        obtain ⟨o, _, rfl, g, _, rfl, _, _, rfl, rfl, same⟩ := run
        cases same
        exact .same
      | false =>
        simp only [serve, content] at run
        exact quiet run (shutDown_unseeing.bind fun _ _ => .same)
    | _ =>
      simp only [serve, content] at run
      exact quiet run .same

/-- What is told of an execution that was accepted carries its count three times. -/
theorem Reports.counts {n : Int} {o : Outcome Json.Dict} {answered announced : Payload}
    (h : Reports n o answered announced) :
    countsOf [.reply .shell r answered, .broadcast r announced] = [n, n] := by
  cases o with
  | value data =>
    obtain ⟨rfl, rfl⟩ := h
    rfl
  | failed e =>
    obtain ⟨_, rfl, rfl, _⟩ := h
    rfl
  | crashed m =>
    obtain ⟨_, rfl, rfl, _⟩ := h
    rfl

theorem countsOf_notes (notes : List String) :
    countsOf (notes.map fun text => .broadcast r (.progress text)) = [] := by
  simp [countsOf, Emission.payload, Payload.progress, Payload.count?]

/-- An execution that found the tooling running submits its cell, with the number that all its
messages carry. -/
theorem execute_accepted {code : String} (run : (s.execute r code).Runs t (s', v))
    (accepted : leasesIn t ≠ []) :
    let n := (s.seeing t).cells.current.sequence
    s'.cells = ((s.seeing t).cells.update code).submit.2 ∧
      (∃ told, sentIn t = .broadcast r (.executeInput code n) :: told) ∧
      countsOf (sentIn t) = [n, n, n] := by
  obtain ⟨l, leased⟩ := List.exists_mem_of_ne_nil _ accepted
  obtain ⟨_, _, notes, o, answered, announced, rfl, rfl, _, reports, sent, cells, _⟩ :=
    execute_runs run leased
  rw [CellStore.update_sequence] at reports sent
  refine ⟨cells, ⟨_, sent⟩, ?_⟩
  rw [sent, ← List.singleton_append, countsOf_append, countsOf_append, countsOf_notes,
    reports.counts]
  rfl

/-- What a request does, beginning with the look at the generation. -/
theorem process_runs (run : (s.process r).Runs t (s', v)) :
    (∃ g, t = [⟨.generation, g⟩] ∧ s' = s.adopt g ∧ Service.find? .shell r.msgType = none) ∨
    ∃ g service u, Service.find? .shell r.msgType = some service ∧
      ((s.adopt g).serve r service).Runs u (s', v) ∧
      t = ⟨.generation, g⟩ :: ⟨.emit (.broadcast r (.status true)), ()⟩ ::
        (u ++ [⟨.emit (.broadcast r (.status false)), ()⟩]) := by
  rw [process_eq] at run
  obtain ⟨g, t, rfl, handled⟩ := runs_act.mp run
  unfold handle at handled
  cases routed : Service.find? .shell r.msgType with
  | none =>
    rw [routed] at handled
    obtain ⟨rfl, same⟩ := runs_done.mp handled
    cases same
    exact .inl ⟨g, rfl, rfl, rfl⟩
  | some service =>
    rw [routed] at handled
    obtain ⟨u, served, rfl⟩ := enveloped_trace handled
    exact .inr ⟨g, service, u, rfl, served, rfl⟩

theorem seeing_enveloped (s : Session) (g : Nat) (u : List Occurrence) :
    s.seeing (⟨.generation, g⟩ :: ⟨.emit (.broadcast r (.status true)), ()⟩ ::
      (u ++ [⟨.emit (.broadcast r (.status false)), ()⟩])) = (s.adopt g).seeing u := by
  simp [seeing]

/-- A request without an accepted execution. -/
theorem process_edits (run : (s.process r).Runs t (s', v))
    (none : (if leasesIn t = [] then none else r.code?) = none) : (s.seeing t).Edited s' := by
  obtain ⟨g, rfl, rfl, _⟩ | ⟨g, service, u, routed, served, rfl⟩ := process_runs run
  · exact .same
  · rw [seeing_enveloped]
    by_cases leased : leasesIn u = []
    · exact serve_edits served fun _ => leased
    · have absent : r.code? = .none := by simpa [leased] using none
      by_cases execute : service = .execute
      · subst execute
        cases content : r.content with
        | execute code =>
          rw [Request.code_iff.mpr ⟨routed, content⟩] at absent
          cases absent
        | _ =>
          simp only [serve, content] at served
          obtain ⟨rfl, same⟩ := runs_done.mp served
          exact (leased rfl).elim
      · exact serve_edits served fun same => (execute same).elim

/-- A request to execute is served between busy and idle. -/
theorem process_executes {code : String} (run : (s.process r).Runs t (s', v))
    (asked : r.code? = some code) :
    ∃ g u, ((s.adopt g).execute r code).Runs u (s', v) ∧
      t = ⟨.generation, g⟩ :: ⟨.emit (.broadcast r (.status true)), ()⟩ ::
        (u ++ [⟨.emit (.broadcast r (.status false)), ()⟩]) := by
  obtain ⟨wanted, content⟩ := Request.code_iff.mp asked
  obtain ⟨g, rfl, rfl, absent⟩ | ⟨g, service, u, routed, served, rfl⟩ := process_runs run
  · rw [wanted] at absent
    cases absent
  · obtain rfl : Service.execute = service := Option.some.inj (wanted.symm.trans routed)
    simp only [serve, content] at served
    exact ⟨g, u, served, rfl⟩

/-! ## The cells of a generation -/

/-- The session holds the cells of these executions, and is about to make the next one. -/
structure Holds (config : KernelConfig) (xs : List Execution) (s : Session) : Prop where
  configured : s.config = config
  naming : s.cells.naming = config.naming
  submitted : s.cells.submitted = cellsOf config.naming xs
  current : ∃ text, s.cells.current = .make config.naming xs.length text

namespace Holds

variable {config : KernelConfig} {xs : List Execution}

theorem new (config : KernelConfig) : (Session.new config).Holds config [] :=
  ⟨rfl, rfl, rfl, "", rfl⟩

theorem sequence (h : s.Holds config xs) : s.cells.current.sequence = xs.length := by
  obtain ⟨text, current⟩ := h.current
  rw [current]
  rfl

/-- A session of another generation starts afresh. -/
theorem renew (h : s.Holds config xs) {g : Nat} (other : s.generation ≠ g) :
    (s.adopt g).Holds config [] := by
  unfold adopt
  rw [if_neg other, h.configured]
  exact ⟨rfl, rfl, rfl, "", rfl⟩

theorem edited (h : s.Holds config xs) (edited : s.Edited s') : s'.Holds config xs := by
  cases edited with
  | same => exact h
  | update code =>
    obtain ⟨text, current⟩ := h.current
    rw [← h.naming] at current
    refine ⟨h.configured, ?_, by simpa using h.submitted, code, ?_⟩
    · rw [CellStore.update_made current]
      exact h.naming
    · rw [CellStore.update_made current, h.naming]

/-- The code is submitted as the next cell. -/
theorem submits (h : s.Holds config xs) {x : Execution} (stays : s.Stays s')
    (cells : s'.cells = (s.cells.update x.code).submit.2) : s'.Holds config (xs ++ [x]) := by
  obtain ⟨text, current⟩ := h.current
  rw [← h.naming] at current
  rw [CellStore.update_made current, h.naming] at cells
  refine ⟨stays.1.trans h.configured, ?_, ?_, "", ?_⟩
  · rw [cells]
    rfl
  · rw [cells, cellsOf_append, ← h.submitted]
    rfl
  · rw [cells, List.length_append]
    rfl

/-- What is looked up in the course of episodes leaves the cells of the generation that was looked
up last. -/
theorem seeing {es : List Episode} (h : s.Holds config (executions s.generation es))
    (old : ∀ e ∈ es, e.after.generation ≤ s.generation) {gs : List Nat}
    (onwards : (s.generation :: gs).Pairwise (· ≤ ·)) :
    (gs.foldl adopt s).Holds config (executions (gs.foldl adopt s).generation es) ∧
      s.generation ≤ (gs.foldl adopt s).generation := by
  induction gs generalizing s with
  | nil => exact ⟨h, le_rfl⟩
  | cons g rest ih =>
    obtain ⟨first, later⟩ := List.pairwise_cons.mp onwards
    have le : s.generation ≤ g := first g List.mem_cons_self
    have holds : (s.adopt g).Holds config (executions (s.adopt g).generation es) := by
      by_cases same : s.generation = g
      · rw [adopt, if_pos same]
        exact h
      · -- no episode has ended in a generation that was not there
        have none : executions g es = [] := by
          refine List.filterMap_eq_nil_iff.mpr fun e member => if_neg ?_
          have := old e member
          omega
        rw [adopt_generation, none]
        exact h.renew same
    have known : (s.adopt g).generation = g := s.adopt_generation g
    have le : s.generation ≤ (s.adopt g).generation := le.trans known.ge
    obtain ⟨kept, grown⟩ := ih holds (fun e member => (old e member).trans le) (by rwa [known])
    exact ⟨kept, le.trans grown⟩

/-- An execution that is accepted is the next of the generation. -/
theorem accepts {code : String} (h : (s.seeing t).Holds config xs)
    (run : (s.process r).Runs t (s', v)) (asked : r.code? = some code)
    (accepted : leasesIn t ≠ []) :
    (s.seeing t).Stays s' ∧ s'.Holds config (xs ++ [⟨code, countsOf (sentIn t)⟩]) ∧
      (∃ told, sentIn t = .broadcast r (.status true) ::
        .broadcast r (.executeInput code xs.length) :: told) ∧
      countsOf (sentIn t) = [↑xs.length, ↑xs.length, ↑xs.length] := by
  obtain ⟨g, u, executed, rfl⟩ := process_executes run asked
  rw [seeing_enveloped] at h ⊢
  obtain ⟨cells, ⟨told, sent⟩, counts⟩ :=
    execute_accepted executed (by simpa using accepted)
  rw [h.sequence] at sent counts
  have stays := execute_stays executed
  have counted : countsOf (sentIn (⟨.generation, g⟩ ::
      ⟨.emit (.broadcast r (.status true)), ()⟩ ::
        (u ++ [⟨.emit (.broadcast r (.status false)), ()⟩]))) = countsOf (sentIn u) := by
    simp [countsOf, Emission.payload, Payload.count?]
  rw [counted]
  exact ⟨stays, h.submits stays cells,
    ⟨told ++ [.broadcast r (.status false)], by simp [sent]⟩, counts⟩

/-- An execution that is refused shows what the number of the next one will be. -/
theorem refuses {code : String} (h : (s.seeing t).Holds config xs)
    (run : (s.process r).Runs t (s', v)) (asked : r.code? = some code)
    (refused : leasesIn t = []) : Episode.Refused xs.length ⟨s, r, t, s', v⟩ := by
  obtain ⟨g, u, executed, rfl⟩ := process_executes run asked
  obtain ⟨rfl, rfl⟩ := execute_refused executed (by simpa using refused)
  have number : (s.adopt g).cells.current.sequence = xs.length := by
    rw [seeing_enveloped] at h
    exact h.sequence
  exact ⟨by rw [← number]; rfl, rfl, g, rfl, rfl⟩

end Holds

end Session

/-! ## The episodes of a run -/

theorem executions_singleton (e : Episode) (g : Nat) (there : e.after.generation = g) :
    executions g [e] = e.execution?.toList := by
  cases none : e.execution? <;> simp [executions, there, none]

namespace Unfolds

variable {config : KernelConfig} {es : List Episode} {s s' : Session} {r : Request}
  {t : List Occurrence} {v : Verdict}

/-- An episode leaves the cells of the generation in which it ends. -/
theorem leaves (holds : (s.seeing t).Holds config (executions (s.seeing t).generation es))
    (run : (s.process r).Runs t (s', v)) :
    s'.generation = (s.seeing t).generation ∧
      s'.Holds config (executions s'.generation (es ++ [⟨s, r, t, s', v⟩])) := by
  let e : Episode := ⟨s, r, t, s', v⟩
  cases led : e.execution? with
  | none =>
    have edited : (s.seeing t).Edited s' := by
      refine Session.process_edits run ?_
      unfold Episode.execution? at led
      split at led
      · rename_i refused
        exact if_pos refused
      · rename_i accepted
        rw [if_neg accepted]
        exact Option.map_eq_none_iff.mp led
    have same := edited.stays.2
    refine ⟨same, ?_⟩
    rw [executions_append, executions_singleton e _ rfl, led, same]
    simpa using holds.edited edited
  | some x =>
    unfold Episode.execution? at led
    split at led
    · cases led
    · rename_i accepted
      obtain ⟨code, asked, rfl⟩ := Option.map_eq_some_iff.mp led
      obtain ⟨stays, submitted, _⟩ := holds.accepts run asked accepted
      refine ⟨stays.2, ?_⟩
      rw [executions_append, executions_singleton e _ rfl, stays.2]
      have led : e.execution? = some ⟨code, countsOf (sentIn t)⟩ := by
        rw [Episode.execution?, if_neg accepted]
        exact congrArg _ asked
      simpa [led] using submitted

/-- Between requests the session holds the cells of its generation, and none is later. -/
theorem holds (h : Unfolds config es s) :
    s.Holds config (executions s.generation es) ∧ ∀ e ∈ es, e.after.generation ≤ s.generation := by
  induction h with
  | start => exact ⟨.new config, by simp⟩
  | @next es s s' r t v _ run onwards ih =>
    obtain ⟨seen, grown⟩ := ih.1.seeing ih.2 onwards
    obtain ⟨same, left⟩ := leaves seen run
    refine ⟨left, fun e member => ?_⟩
    rcases List.mem_append.mp member with old | new
    · exact ((ih.2 e old).trans grown).trans same.ge
    · rw [List.mem_singleton.mp new]

/-- What holds of every next episode holds of each of them. -/
theorem each {P : List Episode → Episode → Prop} (h : Unfolds config es s)
    (step : ∀ {es s s' r t v}, Unfolds config es s → (s.process r).Runs t (s', v) →
      (s.generation :: generationsIn t).Pairwise (· ≤ ·) → P es ⟨s, r, t, s', v⟩)
    {before after : List Episode} {e : Episode} (cut : es = before ++ e :: after) :
    P before e := by
  induction h generalizing after with
  | start => simp at cut
  | @next es s s' r t v earlier run onwards ih =>
    rcases after.eq_nil_or_concat with rfl | ⟨after, last, rfl⟩
    · obtain ⟨rfl, same⟩ := List.append_inj' cut rfl
      rw [← List.singleton_inj.mp same]
      exact step earlier run onwards
    · rw [List.concat_eq_append, ← List.cons_append, ← List.append_assoc] at cut
      exact ih (List.append_inj' cut rfl).1

/-- In every generation the messages about an execution carry the number of those before it. -/
theorem numbered (h : Unfolds config es s) {g n : Nat} {x : Execution}
    (found : (executions g es)[n]? = some x) : x.counts = [↑n, ↑n, ↑n] := by
  induction h generalizing n with
  | start => simp [executions] at found
  | @next es s s' r t v earlier run onwards ih =>
    obtain ⟨holds, old⟩ := earlier.holds
    obtain ⟨seen, _⟩ := holds.seeing old onwards
    rw [executions_append] at found
    by_cases known : n < (executions g es).length
    · exact ih (by rwa [List.getElem?_append_left known] at found)
    · rw [List.getElem?_append_right (by omega)] at found
      have member := List.mem_of_getElem? found
      by_cases there : s'.generation = g
      · rw [executions_singleton _ _ there, Option.mem_toList] at member
        have last : n = (executions g es).length := by
          have bound := (List.getElem?_eq_some_iff.mp found).1
          rw [executions_singleton _ _ there, Option.mem_def.mp member] at bound
          simp only [Option.toList_some, List.length_singleton] at bound
          omega
        have led := Option.mem_def.mp member
        unfold Episode.execution? at led
        split at led
        · cases led
        · rename_i accepted
          obtain ⟨code, asked, rfl⟩ := Option.map_eq_some_iff.mp led
          obtain ⟨stays, _, _, counts⟩ := seen.accepts run asked accepted
          rw [← there, stays.2] at last
          rw [last]
          exact counts
      · simp [executions, there] at member

/-- The next episode is counted after those before it. -/
theorem counted (h : Unfolds config es s) (run : (s.process r).Runs t (s', v))
    (onwards : (s.generation :: generationsIn t).Pairwise (· ≤ ·)) :
    Episode.Counted config es ⟨s, r, t, s', v⟩ := by
  obtain ⟨present, old⟩ := h.holds
  obtain ⟨seen, grown⟩ := present.seeing old onwards
  obtain ⟨same, holds⟩ := leaves seen run
  refine ⟨fun e member => ((old e member).trans grown).trans same.ge, holds.submitted,
    holds.sequence, fun code asked accepted => ?_, fun code asked refused => ?_⟩
  · obtain ⟨_, _, input, counts⟩ := seen.accepts run asked accepted
    rw [← same] at input counts
    refine ⟨?_, input⟩
    rw [Episode.execution?, if_neg accepted, asked, counts]
    rfl
  · refine ⟨if_pos refused, ?_⟩
    have number := seen.refuses run asked refused
    rwa [← same] at number

end Unfolds

namespace Kernel

variable {σ : Type}

/-- Executions are counted in the course of every schedule, whatever is served, fails, crashes,
is replaced or stopped. The shell goes through episodes, the last of which may still be under way,
and their requests are the first that arrived. In each generation the executions that are accepted
get the counts 0, 1, 2 and so on; the messages about each carry its count and no other; and the
cells that the session holds are those of its generation, in this order and with these numbers. An
execution that is refused shows the count of the next one and changes nothing. -/
theorem executions_counted (config : KernelConfig) (backend : Backend σ) (tooling : σ)
    (obedient : Bool) (moves : List (Move σ)) :
    let k₀ := new config backend tooling obedient
    let k := k₀.play moves
    ∃ (es : List Episode) (rest : List Occurrence) (last : Session),
      -- the episodes are what the shell did, but for the rest of the last one
      Unfolds config es last ∧ es.flatMap Episode.did = doings (k₀.chronicle moves) ++ rest ∧
      (∀ e ∈ es.getLast?, rest <:+ e.did) ∧
      es.map Episode.request = begunIn (recorded k.journal) ∧
      es.map Episode.request <+: arrivals .shell moves ∧
      (k.shell.busy = false → rest = [] ∧ k.session = last) ∧
      (∀ (g n : Nat) (x : Execution), (executions g es)[n]? = some x → x.counts = [↑n, ↑n, ↑n]) ∧
      ∀ before e after, es = before ++ e :: after → e.Counted config before := by
  intro k₀ k
  obtain ⟨es, rest, last, unfolds, told, left, begun, arrived, idle⟩ :=
    play_unfolds config backend tooling obedient moves
  exact ⟨es, rest, last, unfolds, told, left, begun, arrived, idle,
    fun _ _ _ => unfolds.numbered, fun _ _ _ => unfolds.each fun earlier => earlier.counted⟩

end Kernel

end NotebookKernel
