import NotebookKernel.Proofs.Assurance
import NotebookKernel.Proofs.Compilations
import NotebookKernel.Proofs.Freshness

/-!
# What the shell remembers

The shell remembers the cells and whether the setup cell has been built. It tells the sessions of
the tooling apart by their generation, and what it remembers belongs to one generation. The
session that it is given and the generation that it then looks up may belong to different
restarts; all is calm when they do not.
-/

namespace NotebookKernel

open Job

/-- The generation that the shell looks up next, if it does nothing else before. -/
def nextLook? : List Incident → Option Nat
  | .installed _ :: rest => nextLook? rest
  | .did ⟨.generation, g⟩ :: _ => some g
  | _ => none

/-- The session that the shell is given, with its generation. -/
def Incident.leased? : Incident → Option Lease
  | did ⟨.lease, x⟩ => x
  | _ => none

/-- Whenever the shell looks up the generation right after it was given a session, it finds the
generation of that session, although others may have become live in between. -/
def steady : List Incident → Bool
  | [] => true
  | e :: rest =>
      (e.leased?.all fun l => (nextLook? rest).all (· == l.generation)) && steady rest

theorem nextLook_append {past : List Incident} {g : Nat} (h : nextLook? past = some g)
    (more : List Incident) : nextLook? (past ++ more) = some g := by
  induction past using nextLook?.induct with
  | case1 c rest ih => exact ih h
  | case2 g rest => exact h
  | case3 past h₁ h₂ =>
    unfold nextLook? at h
    split at h
    · exact absurd rfl (h₁ _ _)
    · exact absurd rfl (h₂ _ _)
    · cases h

theorem nextLook_installed (cs : List SessionId) (g : Nat) (after : List Incident) :
    nextLook? (cs.map .installed ++ .did ⟨.generation, g⟩ :: after) = some g := by
  induction cs with
  | nil => rfl
  | cons c rest ih => exact ih

theorem steady_earlier {past more : List Incident} (h : steady (past ++ more) = true) :
    steady past = true := by
  induction past with
  | nil => rfl
  | cons e rest ih =>
    simp only [List.cons_append, steady, Bool.and_eq_true, Option.all_eq_true] at h ⊢
    exact ⟨fun l leased g look => h.1 l leased g (nextLook_append look more), ih h.2⟩

theorem steady_look {before after : List Incident} {l : Lease} {cs : List SessionId} {g : Nat}
    (h : steady (before ++ .did ⟨.lease, some l⟩ ::
      (cs.map .installed ++ .did ⟨.generation, g⟩ :: after)) = true) : g = l.generation := by
  induction before with
  | nil =>
    simp only [List.nil_append, steady, Bool.and_eq_true, Option.all_eq_true] at h
    exact beq_iff_eq.mp (h.1 l rfl g (nextLook_installed cs g after))
  | cons e rest ih =>
    simp only [List.cons_append, steady, Bool.and_eq_true] at h
    exact ih h.2

/-- No session becomes live twice, and the generations that are looked up are steady if all is
calm. -/
structure Relied (calm : Prop) (past : List Incident) : Prop where
  fresh : (installedIn past).Nodup
  calmly : calm → steady past = true

theorem Relied.earlier {calm : Prop} (past more : List Incident) (h : Relied calm (past ++ more)) :
    Relied calm past where
  fresh := by
    have fresh := h.fresh
    rw [installedIn_append] at fresh
    exact fresh.of_append_left
  calmly quiet := steady_earlier (h.calmly quiet)

/-- Nothing is noted, but sessions may become live. -/
structure Unnoted (past past' : List Incident) : Prop where
  installed : installedIn past <+: installedIn past'
  story : story past' = story past

theorem Unnoted.trans {past past' past'' : List Incident} (first : Unnoted past past')
    (second : Unnoted past' past'') : Unnoted past past'' :=
  ⟨first.installed.trans second.installed, second.story.trans first.story⟩

theorem Passes.unnoted {past past' : List Incident} (h : Passes past past') :
    Unnoted past past' := by
  obtain ⟨cs, rfl⟩ := h
  exact ⟨by simp, by simp⟩

@[simp] theorem story_accepted (r : Request) (code : String) (n : Int) (x : Unit) :
    story [.did ⟨.emit (.broadcast r (.executeInput code n)), x⟩] = [.accepted n] := rfl

@[simp] theorem story_compiled (c : SessionId) (cell : Cell) (x : Outcome Artifact) :
    story [.did ⟨.call (.compile c cell), x⟩] = [.compiled c cell x.isValue] := rfl

/-- Sessions may become live, and no compilation is noted. -/
structure Uncompiled (past past' : List Incident) : Prop where
  installed : installedIn past <+: installedIn past'
  users : ∀ c, users c (story past') = users c (story past)
  setups : ∀ c, setups c (story past') = setups c (story past)
  known : ∀ c cell built, .compiled c cell built ∈ story past' → .compiled c cell built ∈ story past

theorem Unnoted.uncompiled {past past' : List Incident} (h : Unnoted past past') :
    Uncompiled past past' where
  installed := h.installed
  users c := by rw [h.story]
  setups c := by rw [h.story]
  known c cell built noted := h.story ▸ noted

/-- An action that is not noted, whatever its answer. -/
def Silent : Action → Prop
  | .emit (.broadcast _ (.executeInput _ _)) => False
  | .call (.compile _ _) => False
  | _ => True

theorem Silent.remark_none {a : Action} (h : Silent a) (x : a.Answer) :
    (Incident.did ⟨a, x⟩).remark? = none := by
  cases a with
  | emit e =>
    cases e with
    | reply c r p => rfl
    | broadcast r p =>
      cases p with
      | executeInput code n => exact h.elim
      | _ => rfl
  | call c =>
    cases c with
    | compile s cell => exact h.elim
    | _ => rfl
  | _ => rfl

theorem Silent.unnoted {a : Action} (h : Silent a) (past : List Incident) (x : a.Answer) :
    Unnoted past (past ++ [.did ⟨a, x⟩]) := by
  have nothing : story [.did ⟨a, x⟩] = [] := by simp [story, h.remark_none x]
  exact ⟨by simp, by simp [nothing]⟩

/-- What stays so while nothing is noted. -/
def Framed (P : List Incident → Prop) : Prop := ∀ past past', Unnoted past past' → P past → P past'

theorem Framed.lasts {P : List Incident → Prop} (h : Framed P) : Lasts P :=
  fun past past' passes => h past past' passes.unnoted

section Lists

variable {α : Type}

theorem take_eq_of_prefix {l m : List α} {n : Nat} (h : l <+: m) (le : n ≤ l.length) :
    m.take n = l.take n := by
  obtain ⟨t, rfl⟩ := h
  exact List.take_append_of_le_length le

/-- The last of a list without repetitions is not among those before it. -/
theorem last_notMem_take {l : List α} {a : α} {n : Nat} (nodup : l.Nodup)
    (last : l.getLast? = some a) (lt : n < l.length) : a ∉ l.take n := by
  obtain ⟨front, rfl⟩ := List.getLast?_eq_some_iff.mp last
  have bound : n ≤ front.length := by
    rw [List.length_append, List.length_singleton] at lt
    omega
  intro member
  rw [List.take_append_of_le_length bound] at member
  rw [List.nodup_append] at nodup
  exact nodup.2.2 a (List.mem_of_mem_take member) a (by simp) rfl

end Lists

/-- On a session on which nothing was compiled, no cell was. -/
theorem nothing_compiled {c : SessionId} {remarks : List Remark}
    (h : ∀ cell built, .compiled c cell built ∉ remarks) :
    users c remarks = [] ∧ setups c remarks = [] := by
  constructor
  · refine List.filterMap_eq_nil_iff.mpr fun x hx => ?_
    cases x with
    | compiled d cell built =>
      have other : d ≠ c := fun same => h cell built (same ▸ hx)
      simp [Remark.user?, other]
    | _ => rfl
  · refine List.filterMap_eq_nil_iff.mpr fun x hx => ?_
    cases x with
    | compiled d cell built =>
      have other : d ≠ c := fun same => h cell built (same ▸ hx)
      simp [Remark.setup?, other]
    | _ => rfl

namespace Session

/-- The session of the tooling that the cells belong to. -/
def owner (s : Session) (past : List Incident) : Option SessionId :=
  ((installedIn past).take s.generation).getLast?

/-- What a session of the shell remembers is what has happened. -/
structure Keeps (config : KernelConfig) (calm : Prop) (s : Session) (past : List Incident) :
    Prop where
  told : Told calm (story past)
  configured : s.config = config
  setup : s.cells.setup = (emptyCells config).setup
  count : 0 ≤ s.cells.current.sequence
  reached : s.generation ≤ (installedIn past).length
  known : ∀ c cell built, .compiled c cell built ∈ story past →
    c ∈ (installedIn past).take s.generation
  rising : ∀ c, s.owner past = some c → ∀ n ∈ users c (story past), n < s.cells.current.sequence
  built : calm → s.setupBuilt = true → ∀ c, s.owner past = some c → true ∈ setups c (story past)
  unbuilt : s.setupBuilt = false → ∀ c, s.owner past = some c → true ∉ setups c (story past)
  owed : debt (story past) ≠ .clear → s.setupBuilt = false

/-- No execution is in the middle of owing the setup cell. -/
structure Idle (config : KernelConfig) (calm : Prop) (s : Session) (past : List Incident) :
    Prop where
  keeps : s.Keeps config calm past
  paid : debt (story past) ≠ .due

/-- The session can compile a cell with this number on a session of the tooling. -/
structure Uses (calm : Prop) (s : Session) (c : SessionId) (n : Int) (past : List Incident) :
    Prop where
  live : c ∈ (installedIn past).take s.generation
  own : calm → s.owner past = some c
  rising : ∀ m ∈ users c (story past), m < n
  unbuilt : s.setupBuilt = false → true ∉ setups c (story past)

variable {config : KernelConfig} {calm : Prop} {s t : Session} {past past' : List Incident}
  {c : SessionId} {n : Int}

theorem Keeps.take_eq (h : s.Keeps config calm past) (uncompiled : Uncompiled past past') :
    (installedIn past').take s.generation = (installedIn past).take s.generation :=
  take_eq_of_prefix uncompiled.installed h.reached

theorem Keeps.owner_eq (h : s.Keeps config calm past) (uncompiled : Uncompiled past past') :
    s.owner past' = s.owner past := by
  rw [owner, owner, h.take_eq uncompiled]

/-- The session keeps what it remembers while nothing is compiled. -/
theorem Keeps.uncompiled (h : s.Keeps config calm past) (uncompiled : Uncompiled past past')
    (told : Told calm (story past'))
    (owed : debt (story past') ≠ .clear → s.setupBuilt = false) : s.Keeps config calm past' := by
  have reached := h.reached.trans uncompiled.installed.length_le
  refine ⟨told, h.configured, h.setup, h.count, reached, ?_, ?_, ?_, ?_, owed⟩
  · intro c cell built noted
    rw [h.take_eq uncompiled]
    exact h.known c cell built (uncompiled.known c cell built noted)
  · intro c own
    rw [uncompiled.users]
    exact h.rising c (h.owner_eq uncompiled ▸ own)
  · intro quiet ready c own
    rw [uncompiled.setups]
    exact h.built quiet ready c (h.owner_eq uncompiled ▸ own)
  · intro unready c own
    rw [uncompiled.setups]
    exact h.unbuilt unready c (h.owner_eq uncompiled ▸ own)

theorem Uses.uncompiled (h : s.Uses calm c n past) (keeps : s.Keeps config calm past)
    (uncompiled : Uncompiled past past') : s.Uses calm c n past' := by
  refine ⟨?_, ?_, ?_, ?_⟩
  · rw [keeps.take_eq uncompiled]
    exact h.live
  · rw [keeps.owner_eq uncompiled]
    exact h.own
  · rw [uncompiled.users]
    exact h.rising
  · rw [uncompiled.setups]
    exact h.unbuilt

theorem Keeps.framed : Framed (s.Keeps config calm) := fun _ _ unnoted h =>
  h.uncompiled unnoted.uncompiled (unnoted.story ▸ h.told) (unnoted.story ▸ h.owed)

theorem Idle.framed : Framed (s.Idle config calm) := fun past past' unnoted h =>
  ⟨Keeps.framed past past' unnoted h.keeps, unnoted.story ▸ h.paid⟩

theorem Uses.framed : Framed fun past => s.Keeps config calm past ∧ s.Uses calm c n past :=
  fun past past' unnoted h =>
    ⟨Keeps.framed past past' unnoted h.1, h.2.uncompiled h.1 unnoted.uncompiled⟩

/-- Nothing has been compiled on a session that became live after those that are known of. -/
theorem Keeps.nothing_compiled (h : s.Keeps config calm past) (fresh : (installedIn past).Nodup)
    (last : (installedIn past).getLast? = some c)
    (later : s.generation < (installedIn past).length) :
    users c (story past) = [] ∧ setups c (story past) = [] :=
  NotebookKernel.nothing_compiled fun cell built noted =>
    last_notMem_take fresh last later (h.known c cell built noted)

/-- A session that looks up the generation belongs to it from then on. -/
theorem Idle.adopt (h : s.Idle config calm past) (fresh : (installedIn past).Nodup) :
    (s.adopt (installedIn past).length).Idle config calm past := by
  unfold Session.adopt
  split
  · exact h
  · -- Nothing was compiled on a session of a later generation, so its cells start afresh.
    rename_i other
    have reached := h.keeps.reached
    have later : s.generation < (installedIn past).length := by omega
    have unknown (c : SessionId) (own : ((installedIn past).take
        (installedIn past).length).getLast? = some c) :
        users c (story past) = [] ∧ setups c (story past) = [] := by
      rw [List.take_length] at own
      exact h.keeps.nothing_compiled fresh own later
    refine ⟨⟨h.keeps.told, h.keeps.configured, ?_, ?_, le_rfl, ?_, ?_, ?_, ?_, ?_⟩, h.paid⟩
    · rw [h.keeps.configured]
    · exact le_rfl
    · intro c cell built noted
      rw [List.take_length]
      exact List.mem_of_mem_take (h.keeps.known c cell built noted)
    · intro c own n member
      rw [(unknown c own).1] at member
      cases member
    · intro _ setup
      cases setup
    · intro _ c own
      rw [(unknown c own).2]
      exact List.not_mem_nil
    · intro _
      rfl

/-- The generation that is looked up is the number of the sessions that became live. -/
theorem Idle.looks {g : Nat} (h : s.Idle config calm past) (passes : Passes past past')
    (answered : Answered past' ⟨.generation, g⟩)
    (fresh : (installedIn (past' ++ [.did ⟨.generation, g⟩])).Nodup) :
    g = (installedIn (past' ++ [.did ⟨.generation, g⟩])).length ∧
      (s.adopt g).Idle config calm (past' ++ [.did ⟨.generation, g⟩]) := by
  have looked := Silent.unnoted (a := .generation) trivial past' g
  have number : g = (installedIn (past' ++ [.did ⟨.generation, g⟩])).length := by
    rw [installedIn_append, installedIn_did, List.append_nil]
    exact answered
  have adopted := (Idle.framed _ _ (passes.unnoted.trans looked) h).adopt fresh
  rw [← number] at adopted
  exact ⟨number, adopted⟩

theorem sync_assures (h : s.Idle config calm past) :
    s.sync.Assures (Relied calm) (fun past => Told calm (story past))
      (fun t past => t.Idle config calm past) past := by
  intro past' g passes answered relied
  obtain ⟨_, adopted⟩ := h.looks passes answered relied.fresh
  exact ⟨adopted.keeps.told, adopted⟩

/-- The session of the tooling that became live last can be used, if it is of the generation that
the cells belong to. -/
theorem Idle.uses_current (h : s.Idle config calm past)
    (current : s.generation = (installedIn past).length)
    (last : (installedIn past).getLast? = some c) :
    s.Uses calm c s.cells.current.sequence past := by
  have owner : s.owner past = some c := by rw [owner, current, List.take_length, last]
  refine ⟨?_, fun _ => owner, h.keeps.rising c owner, fun unbuilt =>
    h.keeps.unbuilt unbuilt c owner⟩
  rw [current, List.take_length]
  exact List.mem_of_getLast? last

/-- If it is of a later generation it can be used as well: nothing has been compiled on it. -/
theorem Idle.uses_later {g : Nat} (h : s.Idle config calm past) (fresh : (installedIn past).Nodup)
    (last : (installedIn past).getLast? = some c) (later : s.generation ≠ (installedIn past).length)
    (unnoted : Unnoted past past') (number : g = (installedIn past').length)
    (steady : calm → g = (installedIn past).length) : (s.adopt g).Uses calm c n past' := by
  have reached := h.keeps.reached
  obtain ⟨unused, unbuilt⟩ := h.keeps.nothing_compiled fresh last (by omega)
  obtain ⟨more, grown⟩ := unnoted.installed
  refine ⟨?_, fun quiet => ?_, ?_, fun _ => ?_⟩
  · rw [adopt_generation, number, List.take_length, ← grown]
    exact List.mem_append_left _ (List.mem_of_getLast? last)
  · have nothing : more = [] := by
      have same := steady quiet
      rw [number, ← grown, List.length_append] at same
      exact List.length_eq_zero_iff.mp (by omega)
    rw [owner, adopt_generation, number, List.take_length, ← grown, nothing, List.append_nil, last]
  · rw [unnoted.story, unused]
    exact fun m member => (List.not_mem_nil member).elim
  · rw [unnoted.story, unbuilt]
    exact List.not_mem_nil

/-- The session of the tooling that is live can be used, for a cell with the next number. -/
theorem lease_assures (h : s.Idle config calm past) :
    s.lease.Assures (Relied calm) (fun past => Told calm (story past))
      (fun x past => x.1.Idle config calm past ∧
        ∀ c, x.2 = some c → x.1.Uses calm c x.1.cells.current.sequence past) past := by
  intro past' x passes answered relied
  have looked := Silent.unnoted (a := .lease) trivial past' x
  have idle := Idle.framed _ _ looked (Idle.framed _ _ passes.unnoted h)
  refine ⟨idle.keeps.told, ?_⟩
  cases x with
  | none => exact ⟨idle, by simp⟩
  | some l =>
    obtain ⟨number, last⟩ := answered l rfl
    have same : installedIn (past' ++ [.did ⟨.lease, some l⟩]) = installedIn past' := by simp
    rw [← same] at number last
    by_cases current : l.generation = s.generation
    · have uses := idle.uses_current (current.symm.trans number) last
      simp only [Job.bind, if_pos current, pure_eq, Assures, Option.some.injEq]
      refine ⟨idle, ?_⟩
      rintro c rfl
      exact uses
    · -- Others may become live before the generation is looked up; then not all is calm.
      simp only [Job.bind, if_neg current, sync, perform, bind_eq, pure_eq]
      intro past'' g later answered' relied'
      obtain ⟨number', adopted⟩ := idle.looks later answered' relied'.fresh
      refine ⟨adopted.keeps.told, adopted, ?_⟩
      rintro c ⟨⟩
      have unnoted := later.unnoted.trans (Silent.unnoted (a := .generation) trivial past'' g)
      refine idle.uses_later relied.fresh last (by omega) unnoted number' fun quiet => ?_
      obtain ⟨cs, rfl⟩ := later
      rw [← number]
      have look : steady (past' ++ .did ⟨.lease, some l⟩ ::
          (cs.map .installed ++ .did ⟨.generation, g⟩ :: [])) = true := by
        simpa using relied'.calmly quiet
      exact steady_look look

/-- A step that is not noted leads on to what comes after it. -/
theorem silent_assures {α : Type} {a : Action} {next : a.Answer → Job α} {P : List Incident → Prop}
    {post : α → List Incident → Prop} (silent : Silent a) (framed : Framed P)
    (told : ∀ past, P past → Told calm (story past)) (h : P past)
    (rest : ∀ x past, P past →
      (next x).Assures (Relied calm) (fun past => Told calm (story past)) post past) :
    (Job.act a next).Assures (Relied calm) (fun past => Told calm (story past)) post past := by
  intro past' x passes _ _
  have after := framed _ _ (silent.unnoted past' x) (framed _ _ passes.unnoted h)
  exact ⟨told _ after, rest x _ after⟩

theorem Idle.silent {α : Type} {a : Action} {next : a.Answer → Job α}
    {post : α → List Incident → Prop} (h : s.Idle config calm past) (silent : Silent a)
    (rest : ∀ x past, s.Idle config calm past →
      (next x).Assures (Relied calm) (fun past => Told calm (story past)) post past) :
    (Job.act a next).Assures (Relied calm) (fun past => Told calm (story past)) post past :=
  silent_assures silent Idle.framed (fun _ h => h.keeps.told) h rest

/-- The session is as before, but for the current cell, whose number may have risen, and the reply
that is owed. -/
structure Like (s t : Session) : Prop where
  config : t.config = s.config
  setup : t.cells.setup = s.cells.setup
  count : s.cells.current.sequence ≤ t.cells.current.sequence
  generation : t.generation = s.generation
  setupBuilt : t.setupBuilt = s.setupBuilt

theorem Like.refl (s : Session) : s.Like s := ⟨rfl, rfl, le_rfl, rfl, rfl⟩

theorem Like.owner_eq (like : s.Like t) (past : List Incident) : t.owner past = s.owner past := by
  rw [owner, owner, like.generation]

theorem Keeps.like (h : s.Keeps config calm past) (like : s.Like t) : t.Keeps config calm past := by
  refine ⟨h.told, like.config.trans h.configured, like.setup.trans h.setup,
    h.count.trans like.count, ?_, ?_, ?_, ?_, ?_, ?_⟩
  · rw [like.generation]
    exact h.reached
  · rw [like.generation]
    exact h.known
  · rw [like.owner_eq]
    exact fun c own m member => (h.rising c own m member).trans_le like.count
  · rw [like.owner_eq, like.setupBuilt]
    exact h.built
  · rw [like.owner_eq, like.setupBuilt]
    exact h.unbuilt
  · rw [like.setupBuilt]
    exact h.owed

theorem Uses.like (h : s.Uses calm c n past) (like : s.Like t) : t.Uses calm c n past := by
  refine ⟨?_, ?_, h.rising, ?_⟩
  · rw [like.generation]
    exact h.live
  · rw [like.owner_eq]
    exact h.own
  · rw [like.setupBuilt]
    exact h.unbuilt

/-- What is done without a remark keeps the session. -/
theorem Idle.rest {j : Job (Session × Verdict)} (h : s.Idle config calm past)
    (silent : j.Within Silent fun x => s.Like x.1) :
    j.Assures (Relied calm) (fun past => Told calm (story past))
      (fun x past => x.1.Idle config calm past) past := by
  have kept : ∀ past a (x : a.Answer), Silent a → s.Idle config calm past →
      s.Idle config calm (past ++ [.did ⟨a, x⟩]) :=
    fun past a x silent => Idle.framed _ _ (silent.unnoted past x)
  refine (silent.assures Idle.framed.lasts kept (fun _ idle => idle.keeps.told) h).mono ?_
  rintro x past ⟨like, idle⟩
  exact ⟨idle.keeps.like like, idle.paid⟩

/-- In the middle of an execution: the session can compile the cell with this number, which has
been submitted. -/
structure Executes (config : KernelConfig) (calm : Prop) (s : Session) (c : SessionId) (n : Int)
    (past : List Incident) : Prop where
  keeps : s.Keeps config calm past
  uses : s.Uses calm c n past
  natural : 0 ≤ n
  submitted : n < s.cells.current.sequence
  begun : debt (story past) ≠ .failed

theorem Executes.framed : Framed (s.Executes config calm c n) := by
  intro past past' unnoted h
  obtain ⟨keeps, uses⟩ := Uses.framed past past' unnoted ⟨h.keeps, h.uses⟩
  exact ⟨keeps, uses, h.natural, h.submitted, by rw [unnoted.story]; exact h.begun⟩

theorem Executes.silent {α : Type} {a : Action} {next : a.Answer → Job α}
    {post : α → List Incident → Prop} (h : s.Executes config calm c n past) (silent : Silent a)
    (rest : ∀ x past, s.Executes config calm c n past →
      (next x).Assures (Relied calm) (fun past => Told calm (story past)) post past) :
    (Job.act a next).Assures (Relied calm) (fun past => Told calm (story past)) post past :=
  silent_assures silent Executes.framed (fun _ h => h.keeps.told) h rest

theorem isSetup_setup (config : KernelConfig) : (emptyCells config).setup.isSetup = true := rfl

theorem owner_did (s : Session) (past : List Incident) (o : Occurrence) :
    s.owner (past ++ [.did o]) = s.owner past := by
  simp [owner]

theorem accepted_uncompiled (r : Request) (code : String) (n : Int) (x : Unit)
    (past : List Incident) :
    Uncompiled past (past ++ [.did ⟨.emit (.broadcast r (.executeInput code n)), x⟩]) :=
  ⟨by simp, by simp, by simp, by simp⟩

theorem served_uncompiled (r : Request) (v : Verdict) (past : List Incident) :
    Uncompiled past (past ++ [.served r v]) :=
  ⟨by simp, by simp, by simp, by simp⟩

/-- An execution is accepted. -/
theorem Idle.accepts (r : Request) (code : String) (x : Unit) (h : s.Idle config calm past)
    (uses : s.Uses calm c s.cells.current.sequence past) (like : s.Like t)
    (submitted : s.cells.current.sequence < t.cells.current.sequence) :
    t.Executes config calm c s.cells.current.sequence
      (past ++ [.did ⟨.emit (.broadcast r (.executeInput code s.cells.current.sequence)), x⟩]) := by
  have aside := accepted_uncompiled r code s.cells.current.sequence x past
  have keeps := h.keeps.like like
  have noted : story (past ++ [.did ⟨.emit (.broadcast r
      (.executeInput code s.cells.current.sequence)), x⟩]) =
      story past ++ [.accepted s.cells.current.sequence] := by
    rw [story_append, story_accepted]
  refine ⟨keeps.uncompiled aside ?_ ?_, (uses.like like).uncompiled keeps aside, h.keeps.count,
    submitted, ?_⟩
  · rw [noted]
    exact h.keeps.told.next h.paid
  · rw [noted, debt_append]
    refine fun due => keeps.owed fun clear => due ?_
    rw [clear]
    rfl
  · rw [noted, debt_append]
    intro failed
    simp only [Remark.settle] at failed
    split at failed
    · cases failed
    · exact absurd failed ‹_›

/-- A request is done with. -/
theorem Idle.serves {r : Request} {v : Verdict} (h : s.Idle config calm past) :
    s.Idle config calm (past ++ [.served r v]) := by
  have noted : story (past ++ [.served r v]) = story past ++ [.served] := by
    rw [story_append, story_served]
  have settled : debt (story (past ++ [.served r v])) = debt (story past) := by
    rw [noted, debt_append]
    rfl
  refine ⟨h.keeps.uncompiled (served_uncompiled r v past) ?_ ?_, ?_⟩
  · rw [noted]
    exact h.keeps.told.next h.paid
  · rw [settled]
    exact h.keeps.owed
  · rw [settled]
    exact h.paid

/-- The session that a cell is compiled on is known of. -/
theorem Keeps.known_compiled (h : s.Keeps config calm past) (cell : Cell) (x : Outcome Artifact)
    (live : c ∈ (installedIn past).take s.generation) (d : SessionId) (other : Cell) (built : Bool)
    (noted : .compiled d other built ∈ story (past ++ [.did ⟨.call (.compile c cell), x⟩])) :
    d ∈ (installedIn (past ++ [.did ⟨.call (.compile c cell), x⟩])).take s.generation := by
  rw [story_append, story_compiled, List.mem_append, List.mem_singleton] at noted
  rw [installedIn_append, installedIn_did, List.append_nil]
  rcases noted with earlier | same
  · exact h.known d other built earlier
  · cases same
    exact live

/-- The setup cell is compiled. -/
theorem Executes.compilesSetup {x : Outcome Artifact} (h : s.Executes config calm c n past)
    (due : s.setupBuilt = false) :
    ({ s with setupBuilt := x.isValue }).Idle config calm
        (past ++ [Incident.did ⟨.call (.compile c s.cells.setup), x⟩]) ∧
      (x.isValue = true → ({ s with setupBuilt := x.isValue }).Executes config calm c n
        (past ++ [Incident.did ⟨.call (.compile c s.cells.setup), x⟩])) := by
  obtain ⟨told, configured, setup, count, reached, known, rising, built, unbuilt, owed⟩ := h.keeps
  have isSetup : s.cells.setup.isSetup = true := by rw [setup, isSetup_setup]
  have follows : (Remark.compiled c s.cells.setup x.isValue).Follows calm (story past) :=
    ⟨fun _ => ⟨h.begun, h.uses.unbuilt due⟩, by simp [isSetup]⟩
  let t : Session := { s with setupBuilt := x.isValue }
  have owner (p : List Incident) : t.owner p = s.owner p := rfl
  have settled : debt (story past ++ [.compiled c s.cells.setup x.isValue]) =
      if x.isValue then .clear else .failed := by
    rw [debt_append, Remark.settle, if_pos isSetup]
  have keeps : t.Keeps config calm (past ++ [.did ⟨.call (.compile c s.cells.setup), x⟩]) := by
    refine ⟨?_, configured, setup, count, by simpa using reached,
      h.keeps.known_compiled s.cells.setup x h.uses.live, ?_, ?_, ?_, ?_⟩
    · rw [story_append, story_compiled]
      exact told.next follows
    · intro d own m member
      rw [owner, owner_did] at own
      exact rising d own m (by simpa [isSetup] using member)
    · intro quiet ok d own
      rw [owner, owner_did, h.uses.own quiet] at own
      cases own
      rw [story_append, story_compiled, setups_append, setups_compiled,
        if_pos ⟨rfl, isSetup⟩]
      exact List.mem_append_right _ (List.mem_singleton.mpr ok.symm)
    · intro failed d own
      rw [owner, owner_did] at own
      have failed : x.isValue = false := failed
      rw [story_append, story_compiled, setups_append, setups_compiled, failed, List.mem_append]
      rintro (earlier | now)
      · exact unbuilt due d own earlier
      · split at now <;> simp at now
    · rw [story_append, story_compiled, settled]
      intro unsettled
      cases ok : x.isValue with
      | true => simp [ok] at unsettled
      | false => exact ok
  refine ⟨⟨keeps, ?_⟩, fun ok => ⟨keeps, ⟨?_, ?_, ?_, ?_⟩, h.natural, h.submitted, ?_⟩⟩
  · rw [story_append, story_compiled, settled]
    split <;> simp
  · simpa using h.uses.live
  · rw [owner, owner_did]
    exact h.uses.own
  · simpa [isSetup] using h.uses.rising
  · intro failed
    exact absurd (ok.symm.trans failed) (by simp)
  · rw [story_append, story_compiled, settled, if_pos ok]
    simp

/-- The cell that was submitted is compiled, once the setup cell has been built. -/
theorem Executes.compiles {x : Outcome Artifact} {cell : Cell} (h : s.Executes config calm c n past)
    (ready : s.setupBuilt = true) (number : cell.sequence = n) :
    s.Idle config calm (past ++ [.did ⟨.call (.compile c cell), x⟩]) := by
  obtain ⟨told, configured, setup, count, reached, known, rising, built, unbuilt, owed⟩ := h.keeps
  have isUser : cell.isSetup = false := by
    have natural := h.natural
    simp only [Cell.isSetup, Cell.setupSequence, number, beq_eq_false_iff_ne]
    omega
  have clear : debt (story past) = .clear := by
    by_contra unsettled
    exact absurd (ready.symm.trans (owed unsettled)) (by simp)
  have follows : (Remark.compiled c cell x.isValue).Follows calm (story past) := by
    refine ⟨by simp [isUser], fun _ => ⟨clear, fun quiet => ?_, ?_⟩⟩
    · exact built quiet ready c (h.uses.own quiet)
    · rw [number]
      exact h.uses.rising
  have settled : debt (story past ++ [.compiled c cell x.isValue]) = .clear := by
    rw [debt_append, Remark.settle, isUser, clear]
    rfl
  refine ⟨⟨?_, configured, setup, count, by simpa using reached,
    h.keeps.known_compiled cell x h.uses.live, ?_, ?_, ?_, ?_⟩, ?_⟩
  · rw [story_append, story_compiled]
    exact told.next follows
  · intro d own m member
    rw [owner_did] at own
    rw [story_append, story_compiled, users_append, users_compiled, List.mem_append] at member
    rcases member with earlier | now
    · exact rising d own m earlier
    · split at now
      · rw [List.mem_singleton.mp now, number]
        exact h.submitted
      · cases now
  · intro quiet _ d own
    rw [owner_did] at own
    rw [story_append, setups_append]
    exact List.mem_append_left _ (built quiet ready d own)
  · intro failed
    exact absurd (ready.symm.trans failed) (by simp)
  · rw [story_append, story_compiled, settled]
    exact fun unsettled => absurd rfl unsettled
  · rw [story_append, story_compiled, settled]
    simp

/-- Nothing is owed once the setup cell has been built. -/
theorem Keeps.idle (h : s.Keeps config calm past) (ready : s.setupBuilt = true) :
    s.Idle config calm past := by
  refine ⟨h, fun due => ?_⟩
  have unbuilt : s.setupBuilt = false := h.owed (by simp [due])
  exact absurd (ready.symm.trans unbuilt) (by simp)

theorem setupBuilt_eq {b : Bool} (h : s.setupBuilt = b) : { s with setupBuilt := b } = s := by
  cases s
  cases h
  rfl

end Session

end NotebookKernel
