import NotebookKernel.Proofs.Chronicle

/-!
# What the shell assures

Between two steps of the shell others may have sessions become live. A job assures something if
that is so after each of its steps, however it is answered and whatever becomes live meanwhile.
What every session assures for every request, and leaves to the session after it, is so at all
times under every schedule.
-/

namespace NotebookKernel

/-- Some sessions become live, and nothing else happens. -/
def Passes (past past' : List Incident) : Prop :=
  ∃ cs : List SessionId, past' = past ++ cs.map .installed

theorem Passes.refl (past : List Incident) : Passes past past := ⟨[], by simp⟩

theorem Passes.trans {past past' past'' : List Incident} (first : Passes past past')
    (second : Passes past' past'') : Passes past past'' := by
  obtain ⟨cs, rfl⟩ := first
  obtain ⟨ds, rfl⟩ := second
  exact ⟨cs ++ ds, by simp⟩

/-- What stays so while sessions become live. -/
def Lasts (P : List Incident → Prop) : Prop := ∀ past past', Passes past past' → P past → P past'

namespace Job

variable {α β : Type} {rely good : List Incident → Prop}

/-- After every step of the job all is good, and its result is as it should be. Only the
chronicles that can be relied upon matter. -/
def Assures (rely good : List Incident → Prop) (post : α → List Incident → Prop) :
    Job α → List Incident → Prop
  | done a, past => post a past
  | act a next, past => ∀ past' x, Passes past past' → Answered past' ⟨a, x⟩ →
      rely (past' ++ [.did ⟨a, x⟩]) → good (past' ++ [.did ⟨a, x⟩]) ∧
        (next x).Assures rely good post (past' ++ [.did ⟨a, x⟩])

theorem Assures.bind {j : Job α} {f : α → Job β} {mid : α → List Incident → Prop}
    {post : β → List Incident → Prop} {past : List Incident} (h : j.Assures rely good mid past)
    (sequel : ∀ a past, mid a past → (f a).Assures rely good post past) :
    (j.bind f).Assures rely good post past := by
  induction j generalizing past with
  | done a => exact sequel a past h
  | act a next ih =>
    intro past' x passes answered relied
    obtain ⟨well, rest⟩ := h past' x passes answered relied
    exact ⟨well, ih x rest⟩

theorem Assures.mono {j : Job α} {post fine : α → List Incident → Prop} {past : List Incident}
    (h : j.Assures rely good post past) (weaker : ∀ a past, post a past → fine a past) :
    j.Assures rely good fine past := by
  induction j generalizing past with
  | done a => exact weaker a past h
  | act a next ih =>
    intro past' x passes answered relied
    obtain ⟨well, rest⟩ := h past' x passes answered relied
    exact ⟨well, ih x rest⟩

/-- A job assures the same when sessions have become live before it goes on. -/
theorem Assures.passes {j : Job α} {post : α → List Incident → Prop} {past past' : List Incident}
    (h : j.Assures rely good post past) (lasts : ∀ a, Lasts (post a))
    (passes : Passes past past') : j.Assures rely good post past' := by
  cases j with
  | done a => exact lasts a past past' passes h
  | act a next => exact fun past'' x later => h past'' x (passes.trans later)

/-- Steps that matter to nothing that has to be kept leave it as it is. -/
theorem Within.assures {j : Job α} {allowed : Action → Prop} {fine : α → Prop}
    (h : j.Within allowed fine) {P : List Incident → Prop} (lasts : Lasts P)
    (kept : ∀ past a (x : a.Answer), allowed a → P past → P (past ++ [.did ⟨a, x⟩]))
    (well : ∀ past, P past → good past) {past : List Incident} (start : P past) :
    j.Assures rely good (fun a past => fine a ∧ P past) past := by
  induction j generalizing past with
  | done a => exact ⟨h, start⟩
  | act a next ih =>
    intro past' x passes answered relied
    have after : P (past' ++ [.did ⟨a, x⟩]) :=
      kept past' a x h.1 (lasts past past' passes start)
    exact ⟨well _ after, ih x (h.2 x) after⟩

end Job

/-- What is so whenever the shell is idle, and kept by every request. -/
structure Upholds (config : KernelConfig) (rely good : List Incident → Prop)
    (inv : Session → List Incident → Prop) : Prop where
  start : inv (.new config) []
  lasts : ∀ s, Lasts (inv s)
  begins : ∀ s r past, inv s past → inv s (past ++ [.begun r])
  ends : ∀ s r v past, inv s past → inv s (past ++ [.served r v])
  well : ∀ s past, inv s past → good past
  stays : Lasts good
  serves : ∀ s r past, inv s past → rely past →
    (s.process r).Assures rely good (fun x past => inv x.1 past) past

/-- Where the shell is, everything is as it should be. -/
def Stance.Upheld (rely good : List Incident → Prop) (inv : Session → List Incident → Prop)
    (past : List Incident) : Stance → Prop
  | idle s => inv s past
  | busy _ rest => rest.Assures rely good (fun x past => inv x.1 past) past

/-- What every request keeps is so after every chronicle that can be relied upon. -/
theorem Upholds.records {config : KernelConfig} {rely good : List Incident → Prop}
    {inv : Session → List Incident → Prop} (h : Upholds config rely good inv)
    (earlier : ∀ past more, rely (past ++ more) → rely past) {past : List Incident} {st : Stance}
    (records : Records config past st) (relied : rely past) :
    good past ∧ st.Upheld rely good inv past := by
  induction records with
  | start => exact ⟨h.well _ _ h.start, h.start⟩
  | @installs past st _ c ih =>
    obtain ⟨well, upheld⟩ := ih (earlier _ _ relied)
    have passes : Passes past (past ++ [.installed c]) := ⟨[c], rfl⟩
    refine ⟨h.stays _ _ passes well, ?_⟩
    cases st with
    | idle s => exact h.lasts s _ _ passes upheld
    | busy r rest => exact upheld.passes (fun x => h.lasts x.1) passes
  | @begins past s _ r ih =>
    obtain ⟨_, kept⟩ := ih (earlier _ _ relied)
    have begun := h.begins s r past kept
    exact ⟨h.well _ _ begun, h.serves s r _ begun relied⟩
  | @acts past r a x next _ answered ih =>
    obtain ⟨_, assures⟩ := ih (earlier _ _ relied)
    exact assures past x (.refl past) answered relied
  | @ends past r s v _ ih =>
    obtain ⟨_, kept⟩ := ih (earlier _ _ relied)
    have served := h.ends s r v past kept
    exact ⟨h.well _ _ served, served⟩

/-- What every request keeps is so under every schedule whose chronicle can be relied upon. -/
theorem Upholds.play {config : KernelConfig} {rely good : List Incident → Prop}
    {inv : Session → List Incident → Prop} (h : Upholds config rely good inv)
    (earlier : ∀ past more, rely (past ++ more) → rely past) {σ : Type} (backend : Backend σ)
    (tooling : σ) (obedient : Bool) (moves : List (Move σ))
    (relied : rely ((Kernel.new config backend tooling obedient).chronicle moves)) :
    good ((Kernel.new config backend tooling obedient).chronicle moves) := by
  obtain ⟨st, records, _⟩ := Kernel.play_tells config backend tooling obedient moves
  exact (h.records earlier records relied).1

end NotebookKernel
