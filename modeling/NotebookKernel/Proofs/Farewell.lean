import NotebookKernel.Proofs.Strands

/-!
# Farewells

A kernel sends at most one message in a move, and it is the strand that goes on that sends it. A
request loop asks the kernel to exit only after it has sent the reply that says so.
-/

namespace NotebookKernel

open Job

/-- What the action sends. -/
def Action.emission? : Action → Option Emission
  | .emit e => some e
  | _ => none

/-- What the work sends when it goes on. -/
def Work.emission? : Work → Option Emission
  | .job (.act a _) => a.emission?
  | _ => none

namespace Kernel

variable {σ : Type} {k : Kernel σ}

/-- What a move sends. -/
def emission? (k : Kernel σ) : Move σ → Option Emission
  | .go i => (k.strands[i]?).bind fun s => s.work.emission?
  | _ => none

@[simp] theorem note_emitted (k : Kernel σ) (e : Event) :
    (k.note e).emitted = k.emitted ++ e.emission?.toList := by
  cases e <;> simp [emitted, List.filterMap_cons, Event.emission?]

theorem Feeds.emitted {j : Kernel σ} (h : k.Feeds j) : j.emitted = k.emitted := by
  obtain ⟨es, written, fit⟩ := h.journal
  have silent : es.filterMap Event.emission? = [] := by
    refine List.filterMap_eq_nil_iff.mpr fun e member => ?_
    have loops := (fit e member).2
    cases e with
    | sent loop e => exact loops.elim
    | _ => rfl
  rw [Kernel.emitted, written, List.filterMap_append, silent, List.append_nil, Kernel.emitted]

theorem takeTurn_emitted {φ : Type} (k : Kernel σ) (turn : Turn φ) (work : φ → Work) :
    (k.takeTurn turn work (none, k)).2.emitted = k.emitted := by
  cases turn with
  | call c next => simp [takeTurn, ask, later, Event.emission?, emitted]
  | _ => rfl

/-- A step sends what the work sends. -/
theorem proceed_emitted (k : Kernel σ) (loop : Option RequestChannel) (w : Work) :
    (k.proceed loop w).2.emitted = k.emitted ++ w.emission?.toList := by
  cases w with
  | job j =>
    cases j with
    | done f =>
      have finished : (k.finish f).emitted = k.emitted := (feeds_finish k f).emitted
      simpa [Work.emission?, proceed] using finished
    | act a next =>
      cases a with
      | emit e => exact note_emitted k _
      | restart =>
        simp only [proceed, act, atOnce]
        split <;> simp [emitted, Work.emission?, Action.emission?]
      | call c =>
        simp [proceed, act, ask, later, emitted, Work.emission?, Action.emission?,
          Event.emission?]
      | _ => simp [proceed, act, atOnce, emitted, Work.emission?, Action.emission?]
  | joined f next =>
    simp only [proceed]
    split <;> simp [atOnce, Work.emission?]
  | stopping p next =>
    simp only [proceed]
    split
    · simp [atOnce, Work.emission?]
    · simp [takeTurn_emitted, Work.emission?]
  | flying f p =>
    simp only [proceed]
    split
    · simp [emitted, Work.emission?]
    · simp [takeTurn_emitted, Work.emission?]

theorem enqueue_emitted (k : Kernel σ) (c : RequestChannel) (r : Request) :
    (k.enqueue c r).emitted = k.emitted := by
  unfold enqueue
  split
  · rfl
  · exact (feeds_withLane k c _).emitted

/-- A move sends nothing but what the strand sends that goes on. -/
theorem move_emitted (k : Kernel σ) (m : Move σ) :
    (k.move m).emitted = k.emitted ++ (k.emission? m).toList := by
  cases m with
  | go i =>
    cases found : k.strands[i]? with
    | none => simp [move, emission?, found]
    | some s =>
      have stepped := proceed_emitted k.bare s.loop s.work
      simp only [move, found, emission?, Option.bind_some, emitted, resume_journal]
      exact stepped
  | look c => simpa [move, emission?] using (feeds_feedLane k c).emitted
  | arrive c m =>
    simp only [move]
    split
    · simp [emission?, enqueue_emitted]
    · simp [emission?]
  | leave t =>
    simp only [move]
    split
    · simp [emitted, emission?, raise, Event.emission?]
    · simp [emission?]
  | raise => simp [move, emission?, Kernel.raise, emitted, Event.emission?]
  | restart tag => simp [move, emission?, Kernel.restart, emitted]
  | stop tag => simp [move, emission?, Kernel.stop, emitted]
  | wait t => simp [move, emission?, emitted]
  | change tooling => simp [move, emission?, emitted]

end Kernel

/-! ## Asking the kernel to exit -/

/-- The reply that tells a front-end that the kernel will exit. -/
def Emission.IsFarewell (c : RequestChannel) (e : Emission) : Prop :=
  ∃ r, e = .reply c r (.shutdownOk false)

/-- Whenever the job asks the kernel to exit, the last that was sent was the farewell. -/
def Job.BowsOut {α : Type} (c : RequestChannel) : Option Emission → Job α → Prop
  | _, .done _ => True
  | last, .act a next =>
      (a = .leave → ∃ e ∈ last, e.IsFarewell c) ∧ ∀ x, (next x).BowsOut c a.emission?

namespace Job

variable {α β : Type} {c : RequestChannel} {last : Option Emission}

theorem BowsOut.anyway {j : Job α} (h : j.BowsOut c none) : j.BowsOut c last := by
  cases j with
  | done a => trivial
  | act a next => exact ⟨fun leaves => by simpa using h.1 leaves, h.2⟩

theorem BowsOut.bind {j : Job α} {f : α → Job β} (h : j.BowsOut c last)
    (sequel : ∀ a, (f a).BowsOut c none) : (j.bind f).BowsOut c last := by
  induction j generalizing last with
  | done a => exact (sequel a).anyway
  | act a next ih => exact ⟨h.1, fun x => ih x (h.2 x)⟩

/-- A job that never asks the kernel to exit need not say so. -/
theorem Within.bowsOut {j : Job α} {allowed : Action → Prop} {good : α → Prop}
    (h : j.Within allowed good) (stays : ¬allowed .leave) : j.BowsOut c last := by
  induction j generalizing last with
  | done a => trivial
  | act a next ih =>
    refine ⟨fun leaves => ?_, fun x => ih x (h.2 x)⟩
    subst leaves
    exact (stays h.1).elim

end Job

/-- The action concerns neither the tooling as a whole nor the kernel. -/
def Action.IsRoutine : Action → Prop
  | .restart | .stop | .leave => False
  | _ => True

section

variable {c : RequestChannel} {r : Request}

/-! ### Requests about cells -/

theorem reply_routine {α : Type} (p : Payload) (a : α) :
    ((Job.reply c r p).bind fun _ => done a).Within Action.IsRoutine fun _ => True :=
  ⟨trivial, fun _ => trivial⟩

theorem Session.reportFailure_routine (n : Int) (e : ErrorContent) :
    (reportFailure r n e).Within Action.IsRoutine fun _ => True :=
  ⟨trivial, fun _ => ⟨trivial, fun _ => trivial⟩⟩

theorem Session.execute_routine (s : Session) (code : String) :
    (s.execute r code).Within Action.IsRoutine fun _ => True := by
  refine (s.lease_within trivial trivial).bind fun x _ => ?_
  obtain ⟨s, tooling⟩ := x
  cases tooling with
  | none => exact reply_routine _ _
  | some tooling =>
    refine ⟨trivial, fun _ => ?_⟩
    have building : Building r Action.IsRoutine :=
      ⟨fun _ => trivial, fun _ _ => trivial, fun _ _ => trivial⟩
    refine (build_within _ tooling _ building).bind fun x _ => ?_
    obtain ⟨s, o⟩ := x
    cases o with
    | value data => exact ⟨trivial, fun _ => ⟨trivial, fun _ => trivial⟩⟩
    | failed e => exact (reportFailure_routine _ _).bind fun _ _ => trivial
    | crashed m =>
      have abandoned (e : KernelError) : (s.abandon r e).Within Action.IsRoutine fun _ => True := by
        unfold abandon
        cases s.owed with
        | none => trivial
        | some n => exact (reportFailure_routine _ _).bind fun _ _ => trivial
      exact (abandoned _).bind fun _ _ => trivial

theorem Session.complete_routine (s : Session) (code : String) (cursor : Nat) :
    (s.complete r code cursor).Within Action.IsRoutine fun _ => True := by
  have limits : (s.complete r code cursor).Within Action.IsRoutine fun x => x.2.Survives :=
    (complete_asks r code cursor).within trivial trivial (fun _ _ => trivial) trivial
      (fun _ _ _ _ _ => trivial) s
  exact limits.mono (fun _ => id) fun _ _ => trivial

theorem Session.inspect_routine (s : Session) (code : String) (cursor : Nat) :
    (s.inspect r code cursor).Within Action.IsRoutine fun _ => True := by
  have limits : (s.inspect r code cursor).Within Action.IsRoutine fun x => x.2.Survives :=
    (inspect_asks r code cursor).within trivial trivial (fun _ _ => trivial) trivial
      (fun _ _ _ _ _ => trivial) s
  exact limits.mono (fun _ => id) fun _ _ => trivial

/-- Only requests to shut down concern more than cells. -/
theorem Session.serve_routine (s : Session) {service : Service} (other : service ≠ .shutdown) :
    (s.serve r service).Within Action.IsRoutine fun _ => True := by
  cases service with
  | kernelInfo => exact reply_routine _ _
  | history => exact reply_routine _ _
  | execute =>
    cases content : r.content with
    | execute code =>
      simp only [serve, content]
      exact s.execute_routine code
    | _ => simp [serve, content, Within]
  | complete =>
    cases content : r.content with
    | complete code cursor =>
      simp only [serve, content]
      exact s.complete_routine code cursor
    | _ => simp [serve, content, Within]
  | inspect =>
    cases content : r.content with
    | inspect code cursor detail =>
      simp only [serve, content]
      exact s.inspect_routine code cursor
    | _ => simp [serve, content, Within]
  | shutdown => exact (other rfl).elim

/-! ### Requests to shut down -/

theorem shutDown_bowsOut : (shutDown c r).BowsOut c none := by
  refine ⟨by simp, fun o => ?_⟩
  cases o with
  | crashed m => trivial
  | stopped => exact ⟨by simp, fun _ => ⟨fun _ => ⟨_, rfl, r, rfl⟩, fun _ => trivial⟩⟩

theorem restartTooling_bowsOut {α : Type} {prepare : Job α} (h : prepare.BowsOut c none) :
    (restartTooling c r prepare).BowsOut c none :=
  ⟨by simp, fun _ => BowsOut.bind (j := prepare) h.anyway fun _ => ⟨by simp, fun _ => trivial⟩⟩

theorem enveloped_bowsOut {α : Type} {job : Job α} (h : job.BowsOut c none) :
    (enveloped r job).BowsOut c none :=
  ⟨by simp, fun _ => BowsOut.bind (j := job) h.anyway fun _ => ⟨by simp, fun _ => trivial⟩⟩

/-- Of the services of the shell only the shutdown asks the kernel to exit. -/
theorem Session.serve_bowsOut (s : Session) (service : Service) :
    (s.serve r service).BowsOut .shell none := by
  by_cases other : service ≠ .shutdown
  · exact (s.serve_routine other).bowsOut id
  · obtain rfl := not_ne_iff.mp other
    cases content : r.content with
    | shutdown again =>
      cases again with
      | true =>
        simp only [serve, content]
        have looked : s.sync.BowsOut .shell none := ⟨by simp, fun _ => trivial⟩
        exact BowsOut.bind (restartTooling_bowsOut looked) fun _ => trivial
      | false =>
        simp only [serve, content]
        exact shutDown_bowsOut.bind fun _ => trivial
    | _ => simp [serve, content, BowsOut]

theorem Control.serve_bowsOut (config : KernelConfig) (service : Service) :
    (Control.serve config r service).BowsOut .control none := by
  cases service with
  | kernelInfo => exact (reply_routine _ _).bowsOut id
  | shutdown =>
    cases content : r.content with
    | shutdown again =>
      cases again with
      | true =>
        simp only [serve, content]
        have nothing : (done ()).BowsOut .control none := trivial
        exact BowsOut.bind (restartTooling_bowsOut nothing) fun _ => trivial
      | false =>
        simp only [serve, content]
        exact shutDown_bowsOut
    | _ => simp [serve, content, BowsOut]
  | _ => trivial

/-- Whatever a loop does for a request, it says farewell before it asks the kernel to exit. -/
theorem Kernel.service_bowsOut {σ : Type} (k : Kernel σ) (r : Request) (c : RequestChannel) :
    (k.service r c).BowsOut c none := by
  cases c with
  | shell =>
    refine BowsOut.bind ⟨by simp, fun g => ?_⟩ fun _ => trivial
    cases Service.find? .shell r.msgType with
    | none => trivial
    | some service => exact (enveloped_bowsOut (Session.serve_bowsOut _ service)).anyway
  | control =>
    refine BowsOut.bind ?_ fun _ => trivial
    unfold Control.process
    cases Service.find? .control r.msgType with
    | none => trivial
    | some service => exact enveloped_bowsOut (Control.serve_bowsOut k.config service)

end

/-- Is the work about to ask the kernel to exit? -/
def Work.IsLeaving : Work → Prop
  | .job (.act .leave _) => True
  | _ => False

/-- The work of a loop says farewell before it asks the kernel to exit, if it has not already
done so. -/
def Work.BowsOut (c : RequestChannel) (said : List Emission) : Work → Prop
  | .job j => ∃ last : Option Emission, (∀ e ∈ last, e ∈ said) ∧ j.BowsOut c last
  | .joined _ next => ∀ o, (next o).BowsOut c none
  | .stopping _ next => ∀ o, (next o).BowsOut c none
  | .flying _ _ => True

namespace Work.BowsOut

variable {c : RequestChannel} {said more : List Emission} {w : Work}

theorem fresh {j : Job Finish} (h : j.BowsOut c none) : (Work.job j).BowsOut c said :=
  ⟨none, by simp, h⟩

theorem mono (h : w.BowsOut c said) (grown : said ⊆ more) : w.BowsOut c more := by
  cases w with
  | job j =>
    obtain ⟨last, told, bows⟩ := h
    exact ⟨last, fun e member => grown (told e member), bows⟩
  | _ => exact h

/-- Work goes on by one action. -/
theorem acts {a : Action} {next : a.Answer → Job Finish}
    (h : (Work.job (.act a next)).BowsOut c said) (x : a.Answer) :
    (Work.job (next x)).BowsOut c (said ++ a.emission?.toList) := by
  obtain ⟨last, _, bows⟩ := h
  exact ⟨a.emission?, fun e sent => by simp [Option.mem_def.mp sent], bows.2 x⟩

/-- Work that asks the kernel to exit has said farewell. -/
theorem leaves (h : w.BowsOut c said) (leaving : w.IsLeaving) :
    ∃ r, .reply c r (.shutdownOk false) ∈ said := by
  cases w with
  | job j =>
    cases j with
    | done f => exact leaving.elim
    | act a next =>
      cases a with
      | leave =>
        obtain ⟨last, told, bows⟩ := h
        obtain ⟨e, sent, r, rfl⟩ := bows.1 rfl
        exact ⟨r, told _ sent⟩
      | _ => exact leaving.elim
  | _ => exact leaving.elim

end Work.BowsOut

namespace Kernel

variable {σ : Type} {k : Kernel σ}

/-- Every loop says farewell before it asks the kernel to exit. -/
def Polite (k : Kernel σ) : Prop :=
  ∀ s ∈ k.strands, ∀ c ∈ s.loop, s.work.BowsOut c k.emitted

theorem Polite.grown {j : Kernel σ} (h : k.Polite) {new : List Strand}
    (strands : j.strands = k.strands ++ new) (emitted : k.emitted <+: j.emitted)
    (more : ∀ s ∈ new, ∀ c ∈ s.loop, s.work.BowsOut c j.emitted) : j.Polite := by
  intro s member c own
  rw [strands] at member
  rcases List.mem_append.mp member with old | fresh
  · exact (h s old c own).mono emitted.subset
  · exact more s fresh c own

theorem Polite.congr {j : Kernel σ} (h : k.Polite) (strands : j.strands = k.strands)
    (emitted : k.emitted <+: j.emitted) : j.Polite :=
  h.grown (strands.trans (List.append_nil _).symm) emitted (by simp)

theorem Polite.feedLane (h : k.Polite) (c : RequestChannel) : (k.feedLane c).Polite := by
  have emitted : k.emitted <+: (k.feedLane c).emitted := by simp [(feeds_feedLane k c).emitted]
  revert emitted
  unfold Kernel.feedLane
  split
  · exact fun _ => h
  · split
    · exact h.congr (by simp)
    · split
      · exact fun _ => h
      · rename_i r rest _
        refine fun emitted => h.grown (by simp; rfl) emitted fun s new d own => ?_
        obtain rfl := List.mem_singleton.mp new
        obtain rfl := Option.some.inj own
        exact .fresh (k.service_bowsOut r c)

theorem Polite.finish (h : k.Polite) (f : Finish) : (k.finish f).Polite := by
  have released (i : Kernel σ) (strands : i.strands = k.strands) (emitted : i.emitted = k.emitted)
      (c : RequestChannel) (r : Request) (v : Verdict) : (i.release c r v).Polite := by
    refine Polite.feedLane (Polite.feedLane (h.congr ?_ ?_) _) _
    · simp [strands]
    · have kept : ((i.withLane c (i.lane c).release).note (.served c r v)).emitted = k.emitted := by
        rw [note_emitted, ← emitted]
        simp [Event.emission?, Kernel.emitted]
      simp [kept]
  cases f with
  | shell r s v => exact released { k with session := s } rfl rfl .shell r v
  | control r v => exact released k rfl rfl .control r v
  | call tag result => exact h.congr rfl (by simp [Kernel.finish, Event.emission?])

theorem Polite.takeTurn {φ : Type} (h : k.Polite) (turn : Turn φ) (work : φ → Work) :
    (k.takeTurn turn work (none, k)).2.Polite := by
  refine h.congr ?_ (by simp [takeTurn_emitted])
  cases turn <;> rfl

theorem takeTurn_works {φ : Type} {P : Work → Prop} (k : Kernel σ) (turn : Turn φ)
    {work : φ → Work} (all : ∀ p, P (work p)) :
    ∀ x ∈ (k.takeTurn turn work (none, k)).1, P x.2 := by
  intro x member
  cases turn with
  | locked step =>
    cases member
    exact all _
  | call c next =>
    cases member
    exact all _
  | finished => cases member

/-- An action of a strand. -/
theorem Polite.act (h : k.Polite) {loop : Option RequestChannel} {a : Action}
    {next : a.Answer → Job Finish}
    (own : ∀ c ∈ loop, (Work.job (.act a next)).BowsOut c k.emitted) :
    (k.act loop a next).2.Polite ∧ ∀ x ∈ (k.act loop a next).1, ∀ c ∈ loop,
      x.2.BowsOut c (k.emitted ++ (Work.job (.act a next)).emission?.toList) := by
  have goesOn (x : a.Answer) : ∀ c ∈ loop, (Work.job (next x)).BowsOut c
      (k.emitted ++ (Work.job (.act a next)).emission?.toList) :=
    fun c here => (own c here).acts x
  have only {wake : Option Nat} {w : Work}
      (same : ∀ c ∈ loop, w.BowsOut c
        (k.emitted ++ (Work.job (.act a next)).emission?.toList)) :
      ∀ x ∈ some (wake, w), ∀ c ∈ loop, x.2.BowsOut c
        (k.emitted ++ (Work.job (.act a next)).emission?.toList) := by
    rintro _ ⟨⟩
    exact same
  cases a with
  | restart =>
    have waits (f : FlightId) : ∀ c ∈ loop, (Work.joined f next).BowsOut c
        (k.emitted ++ (Work.job (.act .restart next)).emission?.toList) := by
      intro c here o
      obtain ⟨last, _, bows⟩ := own c here
      exact bows.2 o
    refine ⟨?_, only (waits _)⟩
    simp only [Kernel.act, atOnce]
    split
    · refine h.grown rfl (by simp [Kernel.emitted]) fun s new c here => ?_
      obtain rfl := List.mem_singleton.mp new
      cases here
    · exact h.congr rfl (by simp [Kernel.emitted])
  | stop =>
    refine ⟨h, only fun c here o => ?_⟩
    obtain ⟨last, _, bows⟩ := own c here
    exact bows.2 o
  | emit e => exact ⟨h.congr rfl (by simp [Kernel.act, atOnce]), only (goesOn ())⟩
  | call c =>
    refine ⟨h.congr rfl ?_, only (goesOn _)⟩
    simp [Kernel.act, later, ask, Kernel.emitted]
  | generation => exact ⟨h, only (goesOn _)⟩
  | lease => exact ⟨h, only (goesOn _)⟩
  | leave => exact ⟨h.congr rfl (List.prefix_refl _), only (goesOn _)⟩

/-- A step of a strand. -/
theorem Polite.proceed (h : k.Polite) {loop : Option RequestChannel} {w : Work}
    (own : ∀ c ∈ loop, w.BowsOut c k.emitted) :
    (k.proceed loop w).2.Polite ∧ ∀ x ∈ (k.proceed loop w).1, ∀ c ∈ loop,
      x.2.BowsOut c (k.proceed loop w).2.emitted := by
  rw [proceed_emitted]
  cases w with
  | job j =>
    cases j with
    | done f => exact ⟨h.finish f, fun x ended => (Option.not_mem_none x ended).elim⟩
    | act a next => exact h.act own
  | joined f next =>
    simp only [Kernel.proceed, Work.emission?, Option.toList_none, List.append_nil]
    split
    · refine ⟨h, ?_⟩
      rintro _ ⟨⟩ c here
      exact .fresh (own c here _)
    · refine ⟨h, ?_⟩
      rintro _ ⟨⟩
      exact own
  | stopping p next =>
    simp only [Kernel.proceed, Work.emission?, Option.toList_none, List.append_nil]
    split
    · refine ⟨h, ?_⟩
      rintro _ ⟨⟩ c here
      exact .fresh (own c here _)
    · have kept (p : StopPhase) : ∀ c ∈ loop, (Work.stopping p next).BowsOut c k.emitted := own
      exact ⟨h.takeTurn _ _,
        takeTurn_works (P := fun w => ∀ c ∈ loop, w.BowsOut c k.emitted) k _ kept⟩
  | flying f p =>
    simp only [Kernel.proceed, Work.emission?, Option.toList_none, List.append_nil]
    split
    · exact ⟨h.congr rfl (List.prefix_refl _), fun x ended => (Option.not_mem_none x ended).elim⟩
    · have kept (p : FlightPhase) : ∀ c ∈ loop, (Work.flying f p).BowsOut c k.emitted :=
        fun _ _ => trivial
      exact ⟨h.takeTurn _ _,
        takeTurn_works (P := fun w => ∀ c ∈ loop, w.BowsOut c k.emitted) k _ kept⟩

theorem new_polite (config : KernelConfig) (backend : Backend σ) (tooling : σ)
    (obedient : Bool) : (new config backend tooling obedient).Polite := by
  simp [Polite, new]

theorem Polite.enqueue (h : k.Polite) (c : RequestChannel) (r : Request) :
    (k.enqueue c r).Polite := by
  refine h.congr ?_ (by simp [enqueue_emitted])
  unfold Kernel.enqueue
  split
  · rfl
  · simp

/-- Every move keeps to it. -/
theorem Polite.move (h : k.Polite) (m : Move σ) : (k.move m).Polite := by
  have emitted : k.emitted <+: (k.move m).emitted := by
    rw [move_emitted]
    exact List.prefix_append _ _
  cases m with
  | go i =>
    cases found : k.strands[i]? with
    | none => simpa [Kernel.move, found] using h
    | some s =>
      simp only [Kernel.move, found] at emitted ⊢
      have bare : k.bare.Polite := by simp [Polite]
      obtain ⟨polite, goes⟩ := bare.proceed fun c own => h s (List.mem_of_getElem? found) c own
      intro t member c own
      simp only [resume_strands, Continuation.strand, List.append_assoc, List.mem_append,
        Option.mem_toList, Option.map_eq_some_iff] at member
      rcases member with old | ⟨x, next, rfl⟩ | old | new
      · exact (h t (List.mem_of_mem_take old) c own).mono emitted.subset
      · exact goes x next c own
      · exact (h t (List.mem_of_mem_drop old) c own).mono emitted.subset
      · exact polite t new c own
  | look c => exact h.feedLane c
  | arrive c m =>
    simp only [Kernel.move]
    split
    · exact h.enqueue c _
    · exact h
  | restart tag =>
    refine h.grown rfl emitted fun s new c own => ?_
    obtain rfl := List.mem_singleton.mp new
    cases own
  | stop tag =>
    refine h.grown rfl emitted fun s new c own => ?_
    obtain rfl := List.mem_singleton.mp new
    cases own
  | leave t =>
    refine h.congr ?_ emitted
    simp only [Kernel.move]
    split <;> rfl
  | raise => exact h.congr rfl emitted
  | wait t => exact h.congr rfl emitted
  | change tooling => exact h.congr rfl emitted

end Kernel

end NotebookKernel
