import NotebookKernel.Proofs.Tenure

/-!
# Drafts do not interfere with executions

Requests to complete, to inspect, for the history and for the kernel's own data, and those that no
handler serves, leave no trace in what comes of the executions around them: their messages and
counts and the calls to compile and to run are the same without them. All that such a request
changes is the text of the current cell, which the next execution replaces.
-/

namespace NotebookKernel

open Job

namespace Service

/-- Does the service use what the shell keeps? The others are for drafts. -/
def isVital : Service → Bool
  | execute => true
  | shutdown => true
  | _ => false

end Service

/-- Is it a request to execute or to shut down? -/
def Request.isVital (r : Request) : Bool := (Service.find? .shell r.msgType).any Service.isVital

/-- The call is about a draft. -/
def ToolingCall.IsDraft : ToolingCall → Prop
  | complete _ _ _ => True
  | inspect _ _ _ => True
  | _ => False

/-- The call is to compile or to run. If the tooling may be replaced, the calls that do it count as
well: without a session nothing is compiled or run. -/
def ToolingCall.Counts (renews : Prop) : ToolingCall → Prop
  | compile _ _ => True
  | run _ _ => True
  | complete _ _ _ => False
  | inspect _ _ _ => False
  | _ => renews

/-- What the tooling answers to the calls that count depends only on such calls before: on a view
of its world that drafts do not change. -/
structure Overlooks {σ ν : Type} (limit : Duration) (renews : Prop) (view : σ → ν)
    (backend : Backend σ) : Prop where
  drafts : ∀ c w, c.IsDraft → view (backend c w).2 = view w
  answers : ∀ c w w', c.Counts renews → view w = view w' →
    (c.heard limit (backend c w).1).answer = (c.heard limit (backend c w').1).answer ∧
      view (backend c w).2 = view (backend c w').2

/-- What is produced for an execution. -/
inductive Product where
  | sent (e : Emission)
  | compiles (cell : Cell)
  | runs (artifact : Artifact)

/-- What an event produces for an execution. -/
def Event.product? : Event → Option Product
  | sent (some .shell) e =>
      if Service.find? .shell e.request.msgType = some .execute then some (.sent e) else none
  | called (.compile _ cell) _ => some (.compiles cell)
  | called (.run _ artifact) _ => some (.runs artifact)
  | _ => none

/-- What is produced for executions, the oldest first. -/
def products (es : List Event) : List Product := es.filterMap Event.product?

theorem products_append (es fs : List Event) : products (es ++ fs) = products es ++ products fs :=
  List.filterMap_append

/-- Every number stands for itself. -/
def Numbering.same : Numbering where
  pairs := Eq
  exact := by
    rintro g _ n _ rfl rfl
    rfl

theorem Echoes.calls_like {same : SessionId → SessionId → Prop} {c c' : ToolingCall} {x : c.Answer}
    {x' : c'.Answer} (h : Echoes same c x c' x') : c.Like same c' := by
  cases h with
  | started _ => exact .start
  | failed _ => exact .start
  | crashed _ => exact .start
  | compile h cell => exact .compile h cell
  | run h artifact => exact .run h artifact
  | complete h cell span => exact .complete h cell span
  | inspect h cell span => exact .inspect h cell span
  | dispose h => exact .dispose h
  | kill h => exact .kill h

theorem ToolingCall.Like.eq {c c' : ToolingCall} (h : c.Like Eq c') : c = c' := by
  cases h <;> simp_all

/-- Events that are the same but for the time that answers take produce the same. -/
theorem Event.Like.product {limit : Duration} {e e' : Event} (h : e.Like Eq limit e') :
    e.product? = e'.product? := by
  cases h with
  | @called c c' t t' echoes =>
    obtain rfl := echoes.calls_like.eq
    cases c <;> rfl
  | _ => rfl

section Blind

variable {σ ν : Type} {limit : Duration} {renews : Prop} {view : σ → ν} {backend : Backend σ}

/-- Kernels whose tooling looks the same, and that have produced the same for executions. -/
def Likeness.executions (overlooks : Overlooks limit renews view backend) : Likeness σ σ where
  limit := limit
  num := .same
  onwards := congrArg (· + 1)
  same := Eq
  worlds w w' := view w = view w'
  calls := ToolingCall.Counts renews
  backend := backend
  backend' := backend
  answers := by
    rintro c c' w w' like counts looks
    obtain ⟨answer, after⟩ := overlooks.answers c w w' counts looks
    obtain rfl := like.eq
    rw [answer]
    exact ⟨.self c _, after⟩
  journals es es' := products es = products es'
  written := by
    intro es es' e e' told like
    rw [products_append, products_append, told]
    simp only [products, List.filterMap_cons, like.product]

end Blind

/-! ## What a draft leaves alone -/

/-- What may be done for a draft. -/
def Action.Drafts (r : Request) : Action → Prop
  | .generation => True
  | .lease => True
  | .emit e => e.request = r
  | .call c => c.IsDraft
  | _ => False

/-- The answer while the tooling is not replaced. -/
def Occurrence.Steady (g : Nat) : Occurrence → Prop
  | ⟨.generation, x⟩ => x = g
  | ⟨.lease, x⟩ => ∀ l ∈ x, l.generation = g
  | _ => True

/-- As long as the tooling is not replaced, all that the job does is for a draft, and it ends
well. -/
def Job.Drafts {α : Type} (r : Request) (g : Nat) (good : α → Prop) : Job α → Prop
  | .done a => good a
  | .act a next => a.Drafts r ∧ ∀ x, Occurrence.Steady g ⟨a, x⟩ → (next x).Drafts r g good

theorem Job.Drafts.bind {α β : Type} {r : Request} {g : Nat} {good : α → Prop} {fine : β → Prop}
    {j : Job α} {f : α → Job β} (h : j.Drafts r g good)
    (sequel : ∀ a, good a → (f a).Drafts r g fine) : (j.bind f).Drafts r g fine := by
  induction j with
  | done a => exact sequel a h
  | act a next ih => exact ⟨h.1, fun x steady => ih x (h.2 x steady)⟩

/-- What is for a draft whatever it is answered is so while the tooling is not replaced. -/
theorem Job.Within.drafts {α : Type} {r : Request} {g : Nat} {good fine : α → Prop} {j : Job α}
    (h : j.Within (Action.Drafts r) good) (weaker : ∀ a, good a → fine a) :
    j.Drafts r g fine := by
  induction j with
  | done a => exact weaker a h
  | act a next ih => exact ⟨h.1, fun x _ => ih x (h.2 x)⟩

namespace Session

variable {s t : Session} {r : Request} {g : Nat} {config : KernelConfig} {num : Numbering}

/-- A session that is edited stays like those that it was like. -/
theorem Edited.similar (h : s.Edited t) {s' : Session} (like : s.Similar config num s') :
    t.Similar config num s' := by
  cases h with
  | same => exact like
  | update text =>
    exact ⟨like.configured, like.configured', like.cells.updated text, like.generation,
      like.setupBuilt⟩

theorem lease_drafts (present : s.generation = g) :
    s.lease.Drafts r g fun x => x.1 = s := by
  refine ⟨trivial, fun x steady => ?_⟩
  cases x with
  | none => rfl
  | some l =>
    have here : l.generation = s.generation := (steady l rfl).trans present.symm
    simp only [Job.bind, if_pos here]
    rfl

theorem reply_drafts (p : Payload) (edited : s.Edited t) (v : Verdict) :
    ((reply r p).bind fun _ => done (t, v)).Drafts r g fun x => s.Edited x.1 :=
  ⟨rfl, fun _ _ => edited⟩

/-- A question is for a draft, if its calls are. -/
theorem Asks.drafts {q : Question} {ask : Session → Job (Session × Verdict)}
    (asks : Asks r q ask) (draft : ∀ l cell, (q.call l cell).IsDraft)
    (present : s.generation = g) :
    (ask s).Drafts r g fun x => s.Edited x.1 := by
  obtain ⟨j, same, rest⟩ := asks.edits (Action.Drafts r) draft rfl fun _ _ _ _ _ => rfl
  rw [same]
  refine (lease_drafts present).bind fun x here => ?_
  rw [← show x.1 = s from here]
  exact (rest x).drafts fun _ => And.left

theorem serve_drafts (present : s.generation = g) {service : Service}
    (draft : service.isVital = false) :
    (s.serve r service).Drafts r g fun x => s.Edited x.1 := by
  cases service with
  | kernelInfo => exact reply_drafts _ .same _
  | history => exact reply_drafts _ .same _
  | complete =>
    simp only [serve]
    cases r.content with
    | complete code cursor =>
      exact (complete_asks r code cursor).drafts (fun _ _ => trivial) present
    | _ => exact .same
  | inspect =>
    simp only [serve]
    cases r.content with
    | inspect code cursor detail =>
      exact (inspect_asks r code cursor).drafts (fun _ _ => trivial) present
    | _ => exact .same
  | execute => cases draft
  | shutdown => cases draft

/-- All that is done for a request that is not vital is for a draft. -/
theorem handle_drafts (present : s.generation = g) (draft : r.isVital = false) :
    (s.handle r).Drafts r g fun x => s.Edited x.1 := by
  unfold handle
  unfold Request.isVital at draft
  cases routed : Service.find? .shell r.msgType with
  | none => exact .same
  | some service =>
    rw [routed] at draft
    have served : (s.serve r service).Drafts r g fun x => s.Edited x.1 :=
      serve_drafts present (by simpa using draft)
    exact ⟨rfl, fun _ _ => served.bind fun _ edited => ⟨rfl, fun _ _ => edited⟩⟩

end Session

/-! ## Runs with other drafts -/

section Blind

variable {σ ν : Type} {view : σ → ν} {k i k' i' : Kernel σ} {r : Request}

/-- The kernel after something was done for a draft. -/
structure Kernel.Spared (view : σ → ν) (k i : Kernel σ) : Prop where
  config : i.config = k.config
  backend : i.backend = k.backend
  looks : view i.tooling = view k.tooling
  supervisor : i.supervisor = k.supervisor
  landings : i.landings = k.landings
  products : products i.journal = products k.journal

namespace Kernel

theorem Spared.refl (k : Kernel σ) : Spared view k k := ⟨rfl, rfl, rfl, rfl, rfl, rfl⟩

theorem Spared.trans (first : Spared view k i) (second : Spared view i i') : Spared view k i' :=
  ⟨second.config.trans first.config, second.backend.trans first.backend,
    second.looks.trans first.looks, second.supervisor.trans first.supervisor,
    second.landings.trans first.landings, second.products.trans first.products⟩

/-- An event is told of which nothing comes for executions. -/
theorem Spared.note (h : Spared view k i) {e : Event} (nothing : e.product? = none) :
    Spared view k (i.note e) := by
  refine ⟨h.config, h.backend, h.looks, h.supervisor, h.landings, ?_⟩
  change NotebookKernel.products (i.journal ++ [e]) = _
  rw [products_append, h.products]
  simp [NotebookKernel.products, nothing]

/-- A call about a draft. -/
theorem ask_spared {c : ToolingCall} (draft : c.IsDraft)
    (blind : view (k.backend c k.tooling).2 = view k.tooling) : Spared view k (k.ask c).2 := by
  have called : Spared view k { k with tooling := (k.backend c k.tooling).2 } :=
    ⟨rfl, rfl, blind, rfl, rfl, rfl⟩
  refine called.note ?_
  cases c with
  | complete => rfl
  | inspect => rfl
  | _ => exact draft.elim

theorem sent_product (draft : r.isVital = false) {e : Emission} (answers : e.request = r) :
    (Event.sent (some .shell) e).product? = none := by
  subst answers
  unfold Request.isVital at draft
  simp only [Event.product?]
  split
  · rename_i routed
    rw [routed] at draft
    cases draft
  · rfl

/-- The answer to an action for a draft. -/
theorem Answers.spared {a : Action} {x : a.Answer} (h : Answers k a x i) (draft : r.isVital = false)
    (drafts : a.Drafts r) (blind : ∀ c w, c.IsDraft → view (k.backend c w).2 = view w) :
    Occurrence.Steady k.supervisor.generation ⟨a, x⟩ ∧ Spared view k i := by
  cases h with
  | generation => exact ⟨rfl, .refl k⟩
  | lease =>
    refine ⟨fun l looked => ?_, .refl k⟩
    unfold Supervisor.lease? at looked
    split at looked
    · obtain ⟨c, _, rfl⟩ := Option.mem_map.mp looked
      rfl
    · cases looked
  | emit e => exact ⟨trivial, (Spared.refl k).note (sent_product draft drafts)⟩
  | call c => exact ⟨trivial, ask_spared drafts (blind c k.tooling drafts)⟩
  | leave => exact drafts.elim
  | stop => exact drafts.elim
  | restart => exact drafts.elim
  | joined => exact drafts.elim

/-- A draft is served, and ends well. -/
theorem Comes.spared {α : Type} {good : α → Prop} {j : Job α} {a : α} (h : Comes k j i (.done a))
    (draft : r.isVital = false) (drafts : j.Drafts r k.supervisor.generation good)
    (blind : ∀ c w, c.IsDraft → view (k.backend c w).2 = view w) : good a ∧ Spared view k i := by
  generalize ended : Job.done a = e at h
  induction h with
  | here k j =>
    subst ended
    exact ⟨drafts, .refl k⟩
  | @act k k' _ _ _ _ _ answers _ ih =>
    obtain ⟨steady, spared⟩ := answers.spared draft drafts.1 blind
    obtain ⟨well, rest⟩ := ih (spared.supervisor ▸ drafts.2 _ steady) (spared.backend ▸ blind) ended
    exact ⟨well, spared.trans rest⟩

end Kernel

variable {limit : Duration} {renews : Prop} {backend : Backend σ} {config : KernelConfig}
  {overlooks : Overlooks limit renews view backend}

namespace Likeness

theorem Holds.spared {f f' : FlightId} (h : (executions overlooks).Holds f f' k k')
    (spared : Kernel.Spared view k i) : (executions overlooks).Holds f f' i k' where
  limit := spared.config ▸ h.limit
  limit' := h.limit'
  backend := spared.backend.trans h.backend
  backend' := h.backend'
  worlds := spared.looks.trans h.worlds
  supervisor := spared.supervisor ▸ h.supervisor
  landed := spared.landings ▸ h.landed
  journal := spared.products.trans h.journal

theorem Holds.symm {f f' : FlightId} (h : (executions overlooks).Holds f f' k k') :
    (executions overlooks).Holds f' f k' k where
  limit := h.limit'
  limit' := h.limit
  backend := h.backend'
  backend' := h.backend
  worlds := h.worlds.symm
  supervisor := by
    obtain ⟨lifecycle, session, generation, pending⟩ := h.supervisor
    refine ⟨lifecycle.symm, ?_, generation.symm, pending.imp And.symm And.symm⟩
    generalize k.supervisor.session = c at session
    generalize k'.supervisor.session = c' at session
    cases session with
    | some same => exact .some same.symm
    | none => exact .none
  landed o o' landed landed' := by
    cases h.landed o' o landed' landed with
    | ok g g' => exact .ok g' g
    | error e => exact .error e
  journal := h.journal.symm

theorem Abreast.symm (h : (executions overlooks).Abreast config k k') :
    (executions overlooks).Abreast config k' k := by
  obtain ⟨⟨f, f', holds⟩, configured, configured', cells, generation, setupBuilt⟩ := h
  exact ⟨⟨f', f, holds.symm⟩, configured', configured, cells.symm, generation.symm, setupBuilt.symm⟩

/-- One of the two serves a draft. -/
theorem Abreast.draft (h : (executions overlooks).Abreast config k k') (draft : r.isVital = false)
    {s : Session} {v : Verdict}
    (comes : Kernel.Comes (k.note (.begun .shell r)) (k.session.process r) i (.done (s, v))) :
    (executions overlooks).Abreast config ({ i with session := s }.note (.served .shell r v))
      k' := by
  obtain ⟨⟨f, f', holds⟩, sessions⟩ := h
  have present : k.present.generation = k.supervisor.generation := Session.adopt_generation _ _
  have blind : ∀ c w, c.IsDraft → view (k.backend c w).2 = view w :=
    holds.backend ▸ overlooks.drafts
  obtain ⟨edited, spared⟩ := comes.handles.spared draft (Session.handle_drafts present draft) blind
  have begun : Kernel.Spared view k (k.note (.begun .shell r)) := (Kernel.Spared.refl k).note rfl
  have left := begun.trans spared
  have put : Kernel.Spared view k { i with session := s } :=
    ⟨left.config, left.backend, left.looks, left.supervisor, left.landings, left.products⟩
  refine ⟨⟨f, f', holds.spared (put.note rfl)⟩, ?_⟩
  have alike := edited.similar sessions
  change (s.adopt i.supervisor.generation).Similar config .same k'.present
  rw [left.supervisor, Session.adopt, if_pos]
  · exact alike
  · exact alike.generation.trans (sessions.generation.symm.trans present)

end Likeness

namespace Kernel

/-- The drafts before the next request that is not one are served. -/
theorem Serves.pass {rs : List Request} (h : Serves k' rs i')
    (abreast : (Likeness.executions overlooks).Abreast config k k') :
    ∃ j left, Serves j left i' ∧ (Likeness.executions overlooks).Abreast config k j ∧
      left.filter Request.isVital = rs.filter Request.isVital ∧ ∀ r ∈ left.head?, r.isVital := by
  induction h with
  | nil k' => exact ⟨k', [], .nil k', abreast, rfl, by simp⟩
  | @cons k' _ _ r rest _ _ comes serves ih =>
    cases vital : r.isVital with
    | true => exact ⟨k', r :: rest, .cons comes serves, abreast, rfl, by simpa using vital⟩
    | false =>
      obtain ⟨j, left, later, beside, same, next⟩ := ih (abreast.symm.draft vital comes).symm
      exact ⟨j, left, later, beside, by rw [same, List.filter_cons_of_neg (by simp [vital])], next⟩

/-- Whatever drafts are among the requests, the kernels stay abreast. -/
theorem Serves.overlooked {rs rs' : List Request} (h : Serves k rs i) (h' : Serves k' rs' i')
    (same : rs.filter Request.isVital = rs'.filter Request.isVital)
    (abreast : (Likeness.executions overlooks).Abreast config k k')
    (may : ∀ r ∈ rs, r.isVital = true → r.Calls (ToolingCall.Counts renews)) :
    (Likeness.executions overlooks).Abreast config i i' := by
  induction h generalizing k' rs' with
  | nil =>
    obtain ⟨j, left, serves, beside, none, next⟩ := h'.pass abreast
    rw [← same] at none
    cases serves with
    | nil => exact beside
    | @cons _ _ _ r =>
      have vital : r.isVital = true := next r rfl
      simp [vital] at none
  | @cons _ _ _ r rest _ _ comes _ ih =>
    have may' := fun q member => may q (List.mem_cons_of_mem r member)
    cases vital : r.isVital with
    | false =>
      rw [List.filter_cons_of_neg (by simp [vital])] at same
      exact ih h' same (abreast.draft vital comes) may'
    | true =>
      obtain ⟨j, left, serves, beside, left_same, next⟩ := h'.pass abreast
      rw [← same, List.filter_cons_of_pos vital] at left_same
      cases serves with
      | nil => cases left_same
      | @cons _ _ _ q rest' _ _ comes' serves' =>
        rw [List.filter_cons_of_pos (next q rfl)] at left_same
        obtain ⟨rfl, rest_same⟩ := List.cons.inj left_same
        exact ih serves' rest_same.symm
          (beside.serve comes comes' (may q List.mem_cons_self vital)) may'

end Kernel

end Blind

/-- The calls that are made for requests that are not drafts count. -/
theorem Request.calls_count {rs : List Request} {r : Request} (member : r ∈ rs)
    (vital : r.isVital = true) :
    r.Calls (ToolingCall.Counts
      (∃ q ∈ rs, Service.find? .shell q.msgType = some .shutdown)) := by
  intro service routed
  unfold Request.isVital at vital
  rw [routed] at vital
  cases service with
  | execute => exact ⟨fun _ _ => trivial, fun _ _ => trivial⟩
  | shutdown => exact ⟨⟨r, member, routed⟩, fun _ => ⟨⟨r, member, routed⟩, ⟨r, member, routed⟩⟩⟩
  | _ => cases vital

namespace Kernel

variable {σ ν : Type}

/-- A kernel between two requests is abreast with itself. -/
theorem play_abreast (config : KernelConfig) (backend : Backend σ) (tooling : σ) (obedient : Bool)
    (past : List (Move σ)) {view : σ → ν} {renews : Prop}
    (overlooks : Overlooks config.disposeTimeout renews view backend) :
    let k := (new config backend tooling obedient).play past
    k.shell.busy = false → (Likeness.executions overlooks).Abreast config k.core k.core := by
  intro k free
  have proper : k.Proper := (new_proper config backend tooling obedient).play past
  have configured : k.config = config :=
    play_config (new_orderly config backend tooling obedient) past
  have sound := play_sound config backend tooling obedient past free
  have similar : k.session.Similar config .same k.session :=
    ⟨sound.configured, sound.configured', sound.cells, rfl, rfl⟩
  have session : Option.Rel Eq k.supervisor.session k.supervisor.session := by
    cases k.supervisor.session with
    | none => exact .none
    | some c => exact .some rfl
  refine ⟨⟨k.supervisor.pending.getD 0, k.supervisor.pending.getD 0, ?_⟩, similar.adopt rfl⟩
  refine ⟨congrArg _ configured, congrArg _ configured, play_backend _ past, play_backend _ past,
    rfl, ⟨rfl, session, rfl, ?_⟩, ?_, rfl⟩
  · cases pending : k.supervisor.pending with
    | none => exact Or.inl ⟨pending, pending⟩
    | some f => exact Or.inr ⟨pending, pending⟩
  · intro o o' landed landed'
    obtain rfl := proper.regular.same_outcome landed landed'
    exact .self o

/-- The shell serves the same requests twice, but for the drafts among them. Whatever these are and
whatever comes of them, the same is produced for executions. -/
theorem drafts_leave_executions (config : KernelConfig) (backend : Backend σ) (tooling : σ)
    (obedient : Bool) (past moves moves' : List (Move σ)) (view : σ → ν) :
    let k := (new config backend tooling obedient).play past
    k.Quiet → (∀ m ∈ moves, m.OfShell) → (∀ m ∈ moves', m.OfShell) →
    (k.play moves).Drained → (k.play moves').Drained →
    (k.awaiting moves).filter Request.isVital = (k.awaiting moves').filter Request.isVital →
    -- what replaces the tooling has to overlook drafts only if there are restarts
    Overlooks config.disposeTimeout
      (∃ r ∈ k.awaiting moves, Service.find? .shell r.msgType = some .shutdown) view backend →
    products ((k.play moves).journal.drop k.journal.length) =
      products ((k.play moves').journal.drop k.journal.length) := by
  intro k quiet own own' done done' same overlooks
  have proper : k.Proper := (new_proper config backend tooling obedient).play past
  have served := play_serves proper quiet moves own done
  have served' := play_serves proper quiet moves' own' done'
  obtain ⟨⟨_, _, holds⟩, _⟩ := served.overlooked served' same
    (play_abreast config backend tooling obedient past overlooks quiet.free)
    fun r member vital => Request.calls_count member vital
  obtain ⟨es, written⟩ := play_journal proper.orderly moves
  obtain ⟨es', written'⟩ := play_journal proper.orderly moves'
  have told : products (k.play moves).journal = products (k.play moves').journal := holds.journal
  rw [← written, ← written', products_append, products_append, List.append_cancel_left_eq] at told
  rw [← written, ← written', List.drop_left, List.drop_left]
  exact told

/-- Tooling that crashes on drafts. Its world is the number of sessions that it has started and the
number of its crashes. -/
def frailTooling : Backend (Nat × Nat)
  | .start, (n, d) => (.now (.value (n + 1)), n + 1, d)
  | .compile _ cell, (n, d) => (.now (.value ⟨cell.sequence, "Cell", none⟩), n, d)
  | .run _ _, (n, d) => (.now (.value []), n, d)
  | .complete _ _ _, (n, d) => (.now (.crashed none), n, d + 1)
  | .inspect _ _ _, (n, d) => (.now (.crashed none), n, d + 1)
  | .dispose _, (n, d) => (.now (.value ()), n, d)
  | .kill _, (n, d) => (.now (), n, d)

theorem frailTooling_overlooks (limit : Duration) (renews : Prop) :
    Overlooks limit renews Prod.fst frailTooling where
  drafts c w draft := by
    cases c with
    | complete => rfl
    | inspect => rfl
    | _ => exact draft.elim
  answers := by
    rintro c ⟨n, d⟩ ⟨_, d'⟩ counts rfl
    cases c with
    | complete => exact counts.elim
    | inspect => exact counts.elim
    | _ => exact ⟨rfl, rfl⟩

/-- A front-end asks for completions of the draft `y`. -/
def asksToComplete : Message :=
  .asking "complete_request" [("code", .string "y"), ("cursor_pos", .number (.whole (.ofInt 1)))]

/-- A front-end asks to execute the draft. -/
def executesDraft : Message := .asking "execute_request" [("code", .string "y")]

set_option maxRecDepth 8000 in
/-- The tooling crashes on a request for completions. What the execution after it produces is what
it produces without it. -/
theorem execution_after_draft :
    let k := (new .standard frailTooling (0, 0) true).play started
    let drafted := k.play (serving asksToComplete ++ serving executesDraft)
    let plain := k.play (serving executesDraft)
    drafted.tooling = (1, 1) ∧ plain.tooling = (1, 0) ∧
      (products (plain.journal.drop k.journal.length)).length = 9 ∧
      products (drafted.journal.drop k.journal.length) =
        products (plain.journal.drop k.journal.length) := by
  intro k drafted plain
  have quiet : k.Quiet := ⟨rfl, rfl, rfl, rfl, rfl⟩
  have own : ∀ m ∈ (serving executesDraft : List (Move (Nat × Nat))), m.OfShell :=
    serving_ofShell executesDraft
  have own' : ∀ m ∈ (serving asksToComplete ++ serving executesDraft : List (Move (Nat × Nat))),
      m.OfShell := by
    intro m member
    obtain first | second := List.mem_append.mp member
    · exact serving_ofShell asksToComplete m first
    · exact own m second
  have done : drafted.Drained := ⟨List.isEmpty_iff.mp (by decide +kernel), by decide +kernel⟩
  have done' : plain.Drained := ⟨List.isEmpty_iff.mp (by decide +kernel), by decide +kernel⟩
  have asked : k.awaiting (serving asksToComplete ++ serving executesDraft) =
      [⟨[], asksToComplete.header, [], .complete "y" 1⟩,
        ⟨[], executesDraft.header, [], .execute "y"⟩] := rfl
  have asked' : k.awaiting (serving executesDraft) =
      [⟨[], executesDraft.header, [], .execute "y"⟩] := rfl
  have same : (k.awaiting (serving asksToComplete ++ serving executesDraft)).filter
      Request.isVital = (k.awaiting (serving executesDraft)).filter Request.isVital := by
    rw [asked, asked']
    rfl
  refine ⟨by decide +kernel, by decide +kernel, by decide +kernel, ?_⟩
  exact drafts_leave_executions .standard frailTooling (0, 0) true started _ _ Prod.fst quiet own'
    own done done' same (frailTooling_overlooks _ _)

end Kernel

end NotebookKernel
