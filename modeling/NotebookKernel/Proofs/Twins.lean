import NotebookKernel.Proofs.Likeness

/-!
# Sessions that are alike

The text of the cell that is being edited matters to no request: whoever uses the cell gives it a
text first. Sessions that differ in nothing but this text and the numbers of their generations do
the same for every request, and are alike again when they are done with it.
-/

namespace NotebookKernel

open Job

/-- The same cells, but for the text of the one that is being edited. -/
structure CellStore.Like (c c' : CellStore) : Prop where
  naming : c.naming = c'.naming
  submitted : c.submitted = c'.submitted
  setup : c.setup = c'.setup
  current : ∃ n text text', c.current = .make c.naming n text ∧ c'.current = .make c'.naming n text'

namespace CellStore.Like

variable {c c' : CellStore}

/-- Cells that are alike are the same when the current one has been given a text. -/
theorem update (h : c.Like c') (text : String) : c.update text = c'.update text := by
  obtain ⟨naming, submitted, setup, n, old, old', current, current'⟩ := h
  rw [update_made current, update_made current', naming, submitted, setup]

/-- Giving one of them a text leaves them alike. -/
theorem updated (h : c.Like c') (text : String) : (c.update text).Like c' := by
  obtain ⟨naming, submitted, setup, n, old, old', current, current'⟩ := h
  rw [update_made current]
  exact ⟨naming, submitted, setup, n, text, old', rfl, current'⟩

theorem symm (h : c.Like c') : c'.Like c := by
  obtain ⟨naming, submitted, setup, n, old, old', current, current'⟩ := h
  exact ⟨naming.symm, submitted.symm, setup.symm, n, old', old, current', current⟩

theorem sequence (h : c.Like c') : c.current.sequence = c'.current.sequence := by
  obtain ⟨n, text, text', current, current'⟩ := h.current
  rw [current, current']
  rfl

end CellStore.Like

/-- The current cell is what its number and its text make it. -/
def CellStore.Made (c : CellStore) : Prop := ∃ n text, c.current = .make c.naming n text

theorem CellStore.Made.update {c : CellStore} (h : c.Made) (text : String) :
    (c.update text).Made := by
  unfold CellStore.update
  split
  · exact h
  · exact ⟨_, _, rfl⟩

theorem CellStore.Like.made {c c' : CellStore} (h : c.Like c') : c'.Made := by
  obtain ⟨n, _, text, _, made⟩ := h.current
  exact ⟨n, text, made⟩

theorem CellStore.Made.like {c : CellStore} (h : c.Made) : c.Like c := by
  obtain ⟨n, text, made⟩ := h
  exact ⟨rfl, rfl, rfl, n, text, text, made, made⟩

/-- The calls that a service takes. -/
def Service.Calls (calls : ToolingCall → Prop) : Service → Prop
  | .execute => (∀ c cell, calls (.compile c cell)) ∧ ∀ c artifact, calls (.run c artifact)
  | .complete => ∀ c cell span, calls (.complete c cell span)
  | .inspect => ∀ c cell span, calls (.inspect c cell span)
  | .shutdown => Action.restart.Calls calls
  | _ => True

namespace Session

/-- The same session, but for the text that is being edited and the number of the generation. What
is owed is nothing between requests, and is not compared. -/
structure Similar (config : KernelConfig) (num : Numbering) (s s' : Session) : Prop where
  configured : s.config = config
  configured' : s'.config = config
  cells : s.cells.Like s'.cells
  generation : num.pairs s.generation s'.generation
  setupBuilt : s.setupBuilt = s'.setupBuilt

variable {config : KernelConfig} {num : Numbering} {same : SessionId → SessionId → Prop}
  {calls : ToolingCall → Prop} {s s' : Session} {r : Request}

theorem emptyCells_made (config : KernelConfig) : (emptyCells config).Made := ⟨0, "", rfl⟩

theorem Similar.adopt (h : s.Similar config num s') {g g' : Nat} (number : num.pairs g g') :
    (s.adopt g).Similar config num (s'.adopt g') := by
  have exact := num.exact h.generation number
  unfold Session.adopt
  by_cases still : s.generation = g
  · rw [if_pos still, if_pos (exact.mp still)]
    exact h
  · rw [if_neg still, if_neg fun still' => still (exact.mpr still')]
    refine ⟨h.configured, h.configured', ?_, number, rfl⟩
    rw [h.configured, h.configured']
    exact (emptyCells_made _).like

/-- Both get the same cells. -/
theorem Similar.edit (h : s.Similar config num s') {cells : CellStore} (made : cells.Made) :
    Similar config num { s with cells := cells } { s' with cells := cells } :=
  ⟨h.configured, h.configured', made.like, h.generation, h.setupBuilt⟩

/-- Both owe the same. -/
theorem Similar.owe (h : s.Similar config num s') (owed : Option Int) :
    Similar config num { s with owed := owed } { s' with owed := owed } :=
  ⟨h.configured, h.configured', h.cells, h.generation, h.setupBuilt⟩

theorem Similar.sync (h : s.Similar config num s') :
    s.sync.Alike num same calls (Similar config num) s'.sync := by
  refine .act .generation trivial fun x y occurs => ?_
  cases occurs with
  | generation number => exact .done (h.adopt number)

/-- Both look up the live session. -/
theorem Similar.lease (h : s.Similar config num s') :
    s.lease.Alike num same calls (fun x y => x.1.Similar config num y.1 ∧ Option.Rel same x.2 y.2)
      s'.lease := by
  refine .act .lease trivial fun x y occurs => ?_
  cases occurs with
  | unleased => exact .done ⟨h, .none⟩
  | @leased c c' g g' like number =>
    have exact := num.exact number h.generation
    by_cases still : g = s.generation
    · simp only [Job.bind, if_pos still, if_pos (exact.mp still)]
      exact .done ⟨h, .some like⟩
    · have still' : ¬g' = s'.generation := fun same => still (exact.mpr same)
      simp only [Job.bind, if_neg still, if_neg still']
      exact h.sync.bind fun _ _ adopted => .done ⟨adopted, .some like⟩

/-- Both in the midst of an execution. -/
def Both (config : KernelConfig) (num : Numbering) {ω : Type} (x y : Session × ω) : Prop :=
  x.1.Similar config num y.1 ∧ x.1.owed = y.1.owed ∧ x.2 = y.2

theorem Similar.ensureSetup (h : s.Similar config num s') (owed : s.owed = s'.owed)
    {c c' : SessionId} (like : same c c') (may : Service.execute.Calls calls) :
    (s.ensureSetup r c).Alike num same calls (Both config num) (s'.ensureSetup r c') := by
  unfold Session.ensureSetup
  rw [h.setupBuilt, h.cells.setup]
  have ready : Similar config num { s with setupBuilt := true } { s' with setupBuilt := true } :=
    ⟨h.configured, h.configured', h.cells, h.generation, rfl⟩
  split
  · exact .done ⟨h, owed, rfl⟩
  · split
    · exact .done ⟨ready, owed, rfl⟩
    · refine .emits (.act (.call (.compile like _)) (may.1 _ _) fun x y occurs => ?_)
      cases occurs with
      | call echoes =>
        cases echoes with
        | compile _ _ x =>
          cases x with
          | failed e => exact .done ⟨h, owed, rfl⟩
          | crashed m => exact .done ⟨h, owed, rfl⟩
          | value a => exact .emits (.done ⟨ready, owed, rfl⟩)

theorem compileAndRun_alike {c c' : SessionId} (like : same c c') (cell : Cell)
    (may : Service.execute.Calls calls) :
    (compileAndRun r c cell).Alike num same calls Eq (compileAndRun r c' cell) := by
  unfold compileAndRun
  split
  · exact .done rfl
  · refine .emits (.act (.call (.compile like _)) (may.1 _ _) fun x y occurs => ?_)
    cases occurs with
    | call echoes =>
      cases echoes with
      | compile _ _ x =>
        cases x with
        | failed e => exact .done rfl
        | crashed m => exact .done rfl
        | value a =>
          refine .emits (.act (.call (.run like a)) (may.2 _ _) fun x y occurs => ?_)
          cases occurs with
          | call echoes =>
            cases echoes with
            | run _ _ x => exact .done rfl

theorem Similar.build (h : s.Similar config num s') (owed : s.owed = s'.owed) {c c' : SessionId}
    (like : same c c') (cell : Cell) (may : Service.execute.Calls calls) :
    (s.build r c cell).Alike num same calls (Both config num) (s'.build r c' cell) := by
  refine (h.ensureSetup owed like may).bind fun x y both => ?_
  obtain ⟨t, o⟩ := x
  obtain ⟨t', o'⟩ := y
  obtain ⟨similar, owing, rfl⟩ := both
  cases o with
  | failed e => exact .done ⟨similar, owing, rfl⟩
  | crashed m => exact .done ⟨similar, owing, rfl⟩
  | value _ =>
    refine (compileAndRun_alike like cell may).bind fun x y result => ?_
    exact .done ⟨similar, owing, result⟩

/-- What is left of both for a request. -/
def Served (config : KernelConfig) (num : Numbering) (x y : Session × Verdict) : Prop :=
  x.1.Similar config num y.1 ∧ x.2 = y.2

theorem Similar.abandon (h : s.Similar config num s') (owed : s.owed = s'.owed) (e : KernelError) :
    (s.abandon r e).Alike num same calls (Similar config num) (s'.abandon r e) := by
  unfold Session.abandon
  rw [owed]
  cases s'.owed with
  | none => exact .done h
  | some n => exact .emits (.emits (.done (h.owe none)))

/-- Both execute the same code. -/
theorem Similar.execute (h : s.Similar config num s') (code : String)
    (may : Service.execute.Calls calls) :
    (s.execute r code).Alike num same calls (Served config num) (s'.execute r code) := by
  refine h.lease.bind fun x y leased => ?_
  obtain ⟨t, c⟩ := x
  obtain ⟨t', c'⟩ := y
  obtain ⟨similar, live⟩ := leased
  cases live with
  | none =>
    dsimp only
    rw [similar.cells.sequence]
    exact .emits (.done ⟨similar, rfl⟩)
  | some like =>
    dsimp only
    rw [similar.cells.update code]
    have made : (t'.cells.update code).submit.2.Made := ⟨_, _, rfl⟩
    have built := ((similar.edit made).owe (some (t'.cells.update code).current.sequence)).build
      (r := r) rfl like (t'.cells.update code).current may
    refine .emits (built.bind fun x y both => ?_)
    obtain ⟨u, o⟩ := x
    obtain ⟨u', o'⟩ := y
    obtain ⟨built, owing, rfl⟩ := both
    have done := built.owe none
    cases o with
    | value data => exact .emits (.emits (.done ⟨done, rfl⟩))
    | failed e => exact .emits (.emits (.done ⟨done, rfl⟩))
    | crashed m => exact (built.abandon owing _).bind fun _ _ left => .done ⟨left, rfl⟩

/-- Both ask for completions at the same place. -/
theorem Similar.complete (h : s.Similar config num s') (code : String) (cursor : Nat)
    (may : Service.complete.Calls calls) :
    (s.complete r code cursor).Alike num same calls (Served config num)
      (s'.complete r code cursor) := by
  refine h.lease.bind fun x y leased => ?_
  obtain ⟨t, c⟩ := x
  obtain ⟨t', c'⟩ := y
  obtain ⟨similar, live⟩ := leased
  cases live with
  | none => exact .emits (.done ⟨similar, rfl⟩)
  | some like =>
    dsimp only
    rw [similar.cells.update code]
    have edited := similar.edit (similar.cells.made.update code)
    refine .act (.call (.complete like _ _)) (may _ _ _) fun x y occurs => ?_
    cases occurs with
    | call echoes =>
      cases echoes with
      | complete _ _ _ x =>
        cases x with
        | value candidates => exact .emits (.done ⟨edited, rfl⟩)
        | failed e => exact .emits (.done ⟨edited, rfl⟩)
        | crashed m => exact .done ⟨edited, rfl⟩

/-- Both ask for what is known at the same place. -/
theorem Similar.inspect (h : s.Similar config num s') (code : String) (cursor : Nat)
    (may : Service.inspect.Calls calls) :
    (s.inspect r code cursor).Alike num same calls (Served config num)
      (s'.inspect r code cursor) := by
  refine h.lease.bind fun x y leased => ?_
  obtain ⟨t, c⟩ := x
  obtain ⟨t', c'⟩ := y
  obtain ⟨similar, live⟩ := leased
  cases live with
  | none => exact .emits (.done ⟨similar, rfl⟩)
  | some like =>
    dsimp only
    rw [similar.cells.update code]
    have edited := similar.edit (similar.cells.made.update code)
    refine .act (.call (.inspect like _ _)) (may _ _ _) fun x y occurs => ?_
    cases occurs with
    | call echoes =>
      cases echoes with
      | inspect _ _ _ x =>
        cases x with
        | value detail =>
          cases detail with
          | some detail => exact .emits (.done ⟨edited, rfl⟩)
          | none => exact .emits (.done ⟨edited, rfl⟩)
        | failed e => exact .emits (.done ⟨edited, rfl⟩)
        | crashed m => exact .done ⟨edited, rfl⟩

/-- Both replace the tooling. -/
theorem restartTooling_alike {α β : Type} {R : α → β → Prop} {j : Job α} {j' : Job β}
    (h : j.Alike num same calls R j') (c : RequestChannel)
    (may : Action.restart.Calls calls) :
    (restartTooling c r j).Alike num same calls R (restartTooling c r j') := by
  refine .act .restart may fun x y occurs => ?_
  cases occurs with
  | restart outcome =>
    refine h.bind fun a b related => ?_
    cases outcome with
    | ok g => exact .emits (.done related)
    | error e => exact .emits (.done related)

/-- Both stop the tooling. -/
theorem shutDown_alike (c : RequestChannel) (may : Action.stop.Calls calls) :
    (shutDown c r).Alike num same calls Eq (shutDown c r) := by
  refine .act .stop may fun x y occurs => ?_
  cases occurs with
  | stop =>
    cases x with
    | crashed m => exact .done rfl
    | stopped =>
      refine .emits (.act .leave trivial fun x y occurs => ?_)
      cases occurs
      exact .done rfl

/-- Both serve the same request. -/
theorem Similar.serve (h : s.Similar config num s') {service : Service}
    (may : service.Calls calls) :
    (s.serve r service).Alike num same calls (Served config num) (s'.serve r service) := by
  cases service with
  | kernelInfo =>
    simp only [Session.serve, h.configured, h.configured']
    exact .emits (.done ⟨h, rfl⟩)
  | history => exact .emits (.done ⟨h, rfl⟩)
  | execute =>
    simp only [Session.serve]
    cases r.content with
    | execute code => exact h.execute code may
    | _ => exact .done ⟨h, rfl⟩
  | complete =>
    simp only [Session.serve]
    cases r.content with
    | complete code cursor => exact h.complete code cursor may
    | _ => exact .done ⟨h, rfl⟩
  | inspect =>
    simp only [Session.serve]
    cases r.content with
    | inspect code cursor detail => exact h.inspect code cursor may
    | _ => exact .done ⟨h, rfl⟩
  | shutdown =>
    simp only [Session.serve]
    cases r.content with
    | shutdown again =>
      cases again with
      | true =>
        exact (restartTooling_alike h.sync .shell may).bind fun _ _ synced => .done ⟨synced, rfl⟩
      | false =>
        refine (shutDown_alike .shell may.2).bind fun v _ same => ?_
        subst same
        exact .done ⟨h, rfl⟩
    | _ => exact .done ⟨h, rfl⟩

/-- What is done for a request once the session belongs to the present generation. -/
def handle (s : Session) (r : Request) : Job (Session × Verdict) :=
  match Service.find? .shell r.msgType with
  | none => return (s, .ok ())
  | some service => enveloped r (s.serve r service)

theorem process_eq (s : Session) (r : Request) :
    s.process r = .act .generation fun g => (s.adopt g).handle r := rfl

/-- Both handle the same request. -/
theorem Similar.handle (h : s.Similar config num s')
    (may : ∀ service, Service.find? .shell r.msgType = some service → service.Calls calls) :
    (s.handle r).Alike num same calls (Served config num) (s'.handle r) := by
  unfold Session.handle
  cases routed : Service.find? .shell r.msgType with
  | none => exact .done ⟨h, rfl⟩
  | some service =>
    have served : (s.serve r service).Alike num same calls (Served config num)
        (s'.serve r service) := h.serve (may service routed)
    exact .emits (served.bind fun _ _ related => .emits (.done related))

/-- Both process the same request. -/
theorem Similar.process (h : s.Similar config num s')
    (may : ∀ service, Service.find? .shell r.msgType = some service → service.Calls calls) :
    (s.process r).Alike num same calls (Served config num) (s'.process r) := by
  rw [process_eq, process_eq]
  refine .act .generation trivial fun x y occurs => ?_
  cases occurs with
  | generation number => exact (h.adopt number).handle may

end Session

/-! ## Shells that serve the same requests -/

section Shells

variable {config : KernelConfig} {σ τ : Type} {L : Likeness σ τ} {k i : Kernel σ} {k' i' : Kernel τ}

/-- The calls that the request takes. -/
def Request.Calls (calls : ToolingCall → Prop) (r : Request) : Prop :=
  ∀ service, Service.find? .shell r.msgType = some service → service.Calls calls

/-- The session as the next request will find it. -/
def Kernel.present (k : Kernel σ) : Session := k.session.adopt k.supervisor.generation

/-- The kernels are alike, and so are their sessions when they come to the next request. -/
structure Likeness.Abreast (L : Likeness σ τ) (config : KernelConfig) (k : Kernel σ)
    (k' : Kernel τ) : Prop where
  holds : ∃ f f', L.Holds f f' k k'
  sessions : k.present.Similar config L.num k'.present

/-- A request begins with a look at the generation. -/
theorem Kernel.Comes.handles {r : Request} {s : Session} {x : Session × Verdict}
    (h : Comes k (s.process r) i (.done x)) :
    Comes k ((s.adopt k.supervisor.generation).handle r) i (.done x) := by
  rw [Session.process_eq] at h
  cases h with
  | act answers rest =>
    cases answers
    exact rest

/-- The same request is served alike. -/
theorem Likeness.Abreast.serve (h : L.Abreast config k k') {r : Request} {s s' : Session}
    {v v' : Verdict}
    (comes : Kernel.Comes (k.note (.begun .shell r)) (k.session.process r) i (.done (s, v)))
    (comes' : Kernel.Comes (k'.note (.begun .shell r)) (k'.session.process r) i' (.done (s', v')))
    (may : r.Calls L.calls) :
    L.Abreast config ({ i with session := s }.note (.served .shell r v))
      ({ i' with session := s' }.note (.served .shell r v')) := by
  obtain ⟨⟨f, f', like⟩, sessions⟩ := h
  obtain ⟨⟨similar, rfl⟩, g, g', left⟩ := comes.handles.alike comes'.handles
    (like.note (.begun _ r)) (sessions.handle may)
  have put : L.Holds g g' { i with session := s } { i' with session := s' } :=
    ⟨left.limit, left.limit', left.backend, left.backend', left.worlds, left.supervisor,
      left.landed, left.journal⟩
  exact ⟨⟨g, g', put.note (.served _ r v)⟩, similar.adopt left.supervisor.generation⟩

/-- The same requests are served alike. -/
theorem Kernel.Serves.alike {rs : List Request} (h : Serves k rs i) (h' : Serves k' rs i')
    (abreast : L.Abreast config k k') (may : ∀ r ∈ rs, r.Calls L.calls) :
    L.Abreast config i i' := by
  induction h generalizing k' with
  | nil =>
    cases h'
    exact abreast
  | cons comes _ ih =>
    cases h' with
    | cons comes' rest =>
      exact ih rest (abreast.serve comes comes' (may _ List.mem_cons_self))
        fun r member => may r (List.mem_cons_of_mem _ member)

end Shells

end NotebookKernel
