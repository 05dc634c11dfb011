import NotebookKernel.Proofs.RequestLoops
import NotebookKernel.Proofs.Supervision

/-!
# The chronicle of the shell

The chronicle lists what the shell does together with the answers it gets, and the sessions
that become live in between. The journal remembers less: neither what the shell looks up nor
when a session becomes live. However the kernel is scheduled, its chronicle is one of requests
that are served one after the other, each by the session that the one before it left, and what
the shell looks up is what the chronicle says so far.
-/

namespace NotebookKernel

open Job

/-- What matters to the session of the shell. -/
inductive Incident where
  /-- A tooling session becomes the live one. -/
  | installed (live : SessionId)
  | begun (r : Request)
  | did (o : Occurrence)
  | served (r : Request) (v : Verdict)

namespace Incident

def installed? : Incident → Option SessionId
  | installed c => some c
  | _ => none

/-- Does the journal remember it too? -/
def isRecorded : Incident → Bool
  | begun _ => true
  | did ⟨.emit _, _⟩ => true
  | did ⟨.call _, _⟩ => true
  | served _ _ => true
  | _ => false

end Incident

/-- What an event tells about the shell. Only the shell calls the tooling about cells. -/
def Event.incident? : Event → Option Incident
  | begun .shell r => some (.begun r)
  | sent (some .shell) e => some (.did ⟨.emit e, ()⟩)
  | called (.compile c cell) t => some (.did ⟨.call (.compile c cell), t.answer⟩)
  | called (.run c artifact) t => some (.did ⟨.call (.run c artifact), t.answer⟩)
  | called (.complete c cell span) t => some (.did ⟨.call (.complete c cell span), t.answer⟩)
  | called (.inspect c cell span) t => some (.did ⟨.call (.inspect c cell span), t.answer⟩)
  | served .shell r v => some (.served r v)
  | _ => none

theorem Event.isRecorded_of_incident {e : Event} {x : Incident} (h : e.incident? = some x) :
    x.isRecorded = true := by
  unfold incident? at h
  split at h <;> first | cases h; rfl | cases h

/-- What the journal tells about the shell. -/
def recorded (es : List Event) : List Incident := es.filterMap Event.incident?

@[simp] theorem recorded_nil : recorded [] = [] := rfl

@[simp] theorem recorded_append (es fs : List Event) :
    recorded (es ++ fs) = recorded es ++ recorded fs :=
  List.filterMap_append

theorem recorded_of_none {e : Event} (h : e.incident? = none) : recorded [e] = [] := by
  simp [recorded, h]

/-- The sessions that became live, the oldest first. -/
def installedIn (past : List Incident) : List SessionId := past.filterMap Incident.installed?

@[simp] theorem installedIn_append (past more : List Incident) :
    installedIn (past ++ more) = installedIn past ++ installedIn more :=
  List.filterMap_append

@[simp] theorem installedIn_did (o : Occurrence) : installedIn [.did o] = [] := rfl

@[simp] theorem installedIn_begun (r : Request) : installedIn [.begun r] = [] := rfl

@[simp] theorem installedIn_served (r : Request) (v : Verdict) :
    installedIn [.served r v] = [] := rfl

@[simp] theorem installedIn_installed (cs : List SessionId) :
    installedIn (cs.map .installed) = cs := by
  simp [installedIn, List.filterMap_map, Function.comp_def, Incident.installed?]

/-- The answer is what the chronicle says: the number of the sessions that became live, and the
last of them with its number. -/
def Answered (past : List Incident) : Occurrence → Prop
  | ⟨.generation, g⟩ => g = (installedIn past).length
  | ⟨.lease, x⟩ => ∀ l ∈ x, l.generation = (installedIn past).length ∧
      (installedIn past).getLast? = some l.session
  | _ => True

/-- Where the shell is: between requests, or in the middle of one. -/
inductive Stance where
  | idle (s : Session)
  | busy (r : Request) (rest : Job (Session × Verdict))

/-- The chronicles of the shell, and where they leave it. -/
inductive Records (config : KernelConfig) : List Incident → Stance → Prop
  | start : Records config [] (.idle (.new config))
  | installs {past : List Incident} {st : Stance} (h : Records config past st) (c : SessionId) :
      Records config (past ++ [.installed c]) st
  | begins {past : List Incident} {s : Session} (h : Records config past (.idle s)) (r : Request) :
      Records config (past ++ [.begun r]) (.busy r (s.process r))
  | acts {past : List Incident} {r : Request} {a : Action} {x : a.Answer}
      {next : a.Answer → Job (Session × Verdict)} (h : Records config past (.busy r (.act a next)))
      (answered : Answered past ⟨a, x⟩) : Records config (past ++ [.did ⟨a, x⟩]) (.busy r (next x))
  | ends {past : List Incident} {r : Request} {s : Session} {v : Verdict}
      (h : Records config past (.busy r (.done (s, v)))) :
      Records config (past ++ [.served r v]) (.idle s)

theorem Records.allInstalled {config : KernelConfig} {past : List Incident} {st : Stance}
    (h : Records config past st) (cs : List SessionId) :
    Records config (past ++ cs.map .installed) st := by
  induction cs generalizing past with
  | nil => simpa using h
  | cons c rest ih => simpa using ih (h.installs c)

/-- What the shell leaves behind when it is done with a request. -/
def Finish.ofShell (r : Request) (x : Session × Verdict) : Finish := .shell r x.1 x.2

/-- The work is what is left of a request of the shell. -/
def Work.Continues (r : Request) (rest : Job (Session × Verdict)) : Work → Prop
  | .job j => j = rest.map (Finish.ofShell r)
  | .joined _ next => ∃ n, rest = .act .restart n ∧ next = fun o => (n o).map (Finish.ofShell r)
  | .stopping _ next => ∃ n, rest = .act .stop n ∧ next = fun o => (n o).map (Finish.ofShell r)
  | .flying _ _ => False

namespace Kernel

variable {σ : Type} {k : Kernel σ} {config : KernelConfig} {past : List Incident}
  {works more : List Work}

/-- The kernel has come to where its shell is, with this work left to do. -/
def Stands (k : Kernel σ) (works : List Work) : Stance → Prop
  | .idle s => works = [] ∧ k.session = s
  | .busy r rest => (k.lane .shell).busy = true ∧ ∃ w, works = [w] ∧ w.Continues r rest

/-- The chronicle tells where the shell of the kernel is. -/
def Tells (config : KernelConfig) (past : List Incident) (k : Kernel σ) (works : List Work) :
    Prop :=
  ∃ st, Records config past st ∧ k.Stands works st

theorem Tells.congr {j : Kernel σ} {works' : List Work} (h : Tells config past k works)
    (same : works' = works) (session : j.session = k.session)
    (busy : (j.lane .shell).busy = (k.lane .shell).busy) : Tells config past j works' := by
  obtain ⟨st, records, stands⟩ := h
  subst same
  refine ⟨st, records, ?_⟩
  cases st with
  | idle s => exact ⟨stands.1, session.trans stands.2⟩
  | busy r rest => exact ⟨busy.trans stands.1, stands.2⟩

theorem Tells.installed (h : Tells config past k works) (cs : List SessionId) :
    Tells config (past ++ cs.map .installed) k works := by
  obtain ⟨st, records, stands⟩ := h
  exact ⟨st, records.allInstalled cs, stands⟩

@[simp] theorem note_session (k : Kernel σ) (e : Event) : (k.note e).session = k.session := rfl

@[simp] theorem withLane_session (k : Kernel σ) (c : RequestChannel) (l : Lane) :
    (k.withLane c l).session = k.session := by cases c <;> rfl

@[simp] theorem spawn_session (k : Kernel σ) (loop : Option RequestChannel) (w : Work) :
    (k.spawn loop w).session = k.session := rfl

/-- A kernel goes on to another; the shell does what the journal remembers of it. -/
def Retells (config : KernelConfig) (past : List Incident) (k j : Kernel σ) (works : List Work) :
    Prop :=
  ∃ es, j.journal = k.journal ++ es ∧ Tells config (past ++ recorded es) j works

theorem Tells.retells {j : Kernel σ} (h : Tells config past j works)
    (journal : j.journal = k.journal) : Retells config past k j works :=
  ⟨[], by simp [journal], by simpa using h⟩

/-- What is remembered does not matter to the shell. -/
theorem Tells.aside {j : Kernel σ} {e : Event} (h : Tells config past j works)
    (journal : j.journal = k.journal ++ [e]) (aside : e.incident? = none) :
    Retells config past k j works :=
  ⟨[e], journal, by rwa [recorded_of_none aside, List.append_nil]⟩

theorem Retells.trans {i j : Kernel σ} {works works' : List Work}
    (first : Retells config past k i works)
    (second : ∀ past, Tells config past i works → Retells config past i j works') :
    Retells config past k j works' := by
  obtain ⟨es, written, tells⟩ := first
  obtain ⟨fs, more, retells⟩ := second _ tells
  exact ⟨es ++ fs, by rw [more, written, List.append_assoc], by simpa using retells⟩

/-- A loop that looks for work begins a request, or does nothing that matters to the shell. -/
theorem Tells.feedLane (h : Tells config past k (more ++ worksOf .shell k.strands))
    (c : RequestChannel) :
    Retells config past k (k.feedLane c) (more ++ worksOf .shell (k.feedLane c).strands) := by
  unfold Kernel.feedLane
  split
  · exact h.retells rfl
  · rename_i free
    split
    · have busy : (k.lane c).close.busy = (k.lane c).busy := rfl
      refine Tells.aside (e := .closed c) (h.congr (by simp) (by simp) ?_) (by simp) rfl
      cases c <;> simp [busy]
    · split
      · exact h.retells rfl
      · rename_i r rest _
        cases c with
        | control =>
          exact Tells.aside (e := .begun .control r) (h.congr (by simp) (by simp) (by simp))
            (by simp) rfl
        | shell =>
          obtain ⟨st, records, stands⟩ := h
          cases st with
          | busy q rest => simp [stands.1] at free
          | idle s =>
            obtain ⟨nothing, rfl⟩ := stands
            rw [List.append_eq_nil_iff] at nothing
            refine ⟨[.begun .shell r], by simp, _, records.begins r, by simp, ?_⟩
            exact ⟨.job (k.service r .shell), by simp [nothing], rfl⟩

theorem Tells.feed (h : Tells config past k (more ++ worksOf .shell k.strands)) :
    Retells config past k k.feed (more ++ worksOf .shell k.feed.strands) :=
  (h.feedLane .control).trans fun _ h => h.feedLane .shell

end Kernel

theorem Work.continues_done {r : Request} {rest : Job (Session × Verdict)} {f : Finish}
    (h : (Work.job (.done f)).Continues r rest) :
    ∃ s v, rest = .done (s, v) ∧ f = .shell r s v := by
  cases rest with
  | done x => exact ⟨x.1, x.2, rfl, Job.done.inj h⟩
  | act a next => cases h

theorem Work.continues_act {r : Request} {rest : Job (Session × Verdict)} {a : Action}
    {next : a.Answer → Job Finish} (h : (Work.job (.act a next)).Continues r rest) :
    ∃ n, rest = .act a n ∧ next = fun x => (n x).map (Finish.ofShell r) := by
  cases rest with
  | done x => cases h
  | act b n =>
    cases h
    exact ⟨n, rfl, rfl⟩

namespace Kernel

variable {σ : Type} {k : Kernel σ} {config : KernelConfig} {past : List Incident}
  {works more : List Work}

/-- The shell is in the middle of a request if it has work to do. -/
theorem Tells.serving {w : Work} (h : Tells config past k [w]) :
    ∃ r rest, Records config past (.busy r rest) ∧ (k.lane .shell).busy = true ∧
      w.Continues r rest := by
  obtain ⟨st, records, stands⟩ := h
  cases st with
  | idle s => cases stands.1
  | busy r rest =>
    obtain ⟨busy, v, same, continues⟩ := stands
    cases same
    exact ⟨r, rest, records, busy, continues⟩

/-- The shell is done with a request, and looks for the next one. -/
theorem Tells.finish {f : Finish} (h : Tells config past k [.job (.done f)])
    (alone : worksOf .shell k.strands = []) :
    Retells config past k (k.finish f) (worksOf .shell (k.finish f).strands) := by
  obtain ⟨r, rest, records, _, continues⟩ := h.serving
  obtain ⟨s, v, rfl, rfl⟩ := Work.continues_done continues
  let free : Kernel σ :=
    ({ k with session := s }.withLane .shell (k.lane .shell).release).note (.served .shell r v)
  have served : Retells config past k free ([] ++ worksOf .shell free.strands) := by
    refine ⟨[.served .shell r v], by simp [free], .idle s, records.ends, ?_, rfl⟩
    simpa [free] using alone
  exact served.trans fun _ h => h.feed

/-- What the shell looks up when it goes on with this work. The journal does not remember it. -/
def lookup? (k : Kernel σ) : Work → Option Occurrence
  | .job (.act .generation _) => some ⟨.generation, k.supervisor.generation⟩
  | .job (.act .lease _) => some ⟨.lease, k.supervisor.lease?⟩
  | .job (.act .leave _) => some ⟨.leave, ()⟩
  | .joined f _ => (k.landing? f).map fun o => ⟨.restart, o⟩
  | .stopping p _ => p.outcome?.map fun o => ⟨.stop, o⟩
  | _ => none

/-- What a move lets the shell look up. -/
def looked? (k : Kernel σ) : Move σ → Option Occurrence
  | .go i => (k.strands[i]?).bind fun s => if s.loop = some .shell then k.lookup? s.work else none
  | _ => none

/-- What a move adds to the chronicle. -/
def incidents (k : Kernel σ) (m : Move σ) : List Incident :=
  (k.looked? m).toList.map .did ++ (k.installed? (k.move m)).toList.map .installed ++
    recorded ((k.move m).journal.drop k.journal.length)

/-- The chronicle of a schedule. -/
def chronicle (k : Kernel σ) : List (Move σ) → List Incident
  | [] => []
  | m :: moves => k.incidents m ++ (k.move m).chronicle moves

theorem chronicle_append (k : Kernel σ) (first second : List (Move σ)) :
    k.chronicle (first ++ second) = k.chronicle first ++ (k.play first).chronicle second := by
  induction first generalizing k with
  | nil => rfl
  | cons m rest ih => simp [chronicle, ih]

/-- Whoever asks for the live session gets the one that became live last. -/
theorem Counts.answered (h : k.Counts (installedIn past)) :
    Answered past ⟨.lease, k.supervisor.lease?⟩ := by
  intro l found
  unfold Supervisor.lease? at found
  split at found
  · obtain ⟨c, live, rfl⟩ := Option.map_eq_some_iff.mp found
    exact ⟨h.generation, h.last c live⟩
  · cases found

/-- The shell goes on with its request. -/
theorem Tells.goesOn {r : Request} {rest : Job (Session × Verdict)} (w : Work)
    (records : Records config past (.busy r rest)) (busy : (k.lane .shell).busy = true)
    (continues : w.Continues r rest) (alone : worksOf .shell k.strands = []) :
    Tells config past k ([w] ++ worksOf .shell k.strands) :=
  ⟨_, records, busy, w, by simp [alone], continues⟩

/-- A call about a cell is told with its answer. -/
theorem recorded_call {c : ToolingCall} (h : c.aboutCells) (limit : Duration)
    (t : Timed c.Answer) :
    recorded [.called c t] = [.did ⟨.call c, (c.heard limit t).answer⟩] := by
  cases c with
  | start => exact h.elim
  | dispose s => exact h.elim
  | kill s => exact h.elim
  | _ => rfl

/-- A call about a session as a whole is not told. -/
theorem recorded_errand {e : Event} {x : Errand} (h : e.errand? = some x) : e.incident? = none := by
  unfold Event.errand? at h
  split at h <;> first | rfl | cases h

/-- What the shell does with this work is told, and what others do to the supervisor may come right
after what it looks up. -/
def Advances (config : KernelConfig) (past : List Incident) (k : Kernel σ) (w : Work) : Prop :=
  ∀ cs : List SessionId,
    Retells config (past ++ (k.lookup? w).toList.map .did ++ cs.map .installed) k
      (k.proceed (some .shell) w).2
      ((k.proceed (some .shell) w).works ++
        worksOf .shell (k.proceed (some .shell) w).2.strands)

section Serving

variable {r : Request}

theorem advances_act {a : Action} {n : a.Answer → Job (Session × Verdict)}
    (records : Records config past (.busy r (.act a n))) (busy : (k.lane .shell).busy = true)
    (alone : worksOf .shell k.strands = []) (counts : k.Counts (installedIn past))
    (stays : (Work.job (.act a fun x => (n x).map (Finish.ofShell r))).Stays (some .shell)) :
    k.Advances config past (.job (.act a fun x => (n x).map (Finish.ofShell r))) := by
  intro cs
  have before := records.allInstalled cs
  cases a with
  | generation =>
    have number : Answered past ⟨.generation, k.supervisor.generation⟩ := counts.generation
    exact (Tells.goesOn (.job _) ((records.acts number).allInstalled cs) busy rfl alone).retells rfl
  | lease =>
    have live := counts.answered
    exact (Tells.goesOn (.job _) ((records.acts live).allInstalled cs) busy rfl alone).retells rfl
  | leave =>
    have left : Answered past ⟨.leave, ()⟩ := trivial
    exact (Tells.goesOn (.job _) ((records.acts left).allInstalled cs) busy rfl alone).retells rfl
  | emit e =>
    simp only [lookup?, Option.toList_none, List.map_nil, List.append_nil]
    have sent := before.acts (x := ()) trivial
    exact ⟨[.sent (some .shell) e], rfl, Tells.goesOn (.job _) sent busy rfl alone⟩
  | call c =>
    simp only [lookup?, Option.toList_none, List.map_nil, List.append_nil]
    have called := before.acts (x := (k.ask c).1.answer) trivial
    refine ⟨[.called c (k.backend c k.tooling).1], rfl, ?_⟩
    rw [recorded_call stays.1.2 k.config.disposeTimeout]
    exact Tells.goesOn (.job _) called busy rfl alone
  | stop =>
    simp only [lookup?, Option.toList_none, List.map_nil, List.append_nil]
    exact (Tells.goesOn (.stopping .entering _) before busy ⟨n, rfl, rfl⟩ alone).retells rfl
  | restart =>
    simp only [lookup?, Option.toList_none, List.map_nil, List.append_nil]
    cases pending : k.supervisor.pending with
    | some f =>
      rw [proceed_joins pending]
      exact (Tells.goesOn (.joined f _) before busy ⟨n, rfl, rfl⟩ alone).retells rfl
    | none =>
      rw [proceed_creates pending]
      refine Tells.retells (Tells.goesOn (.joined _ _) before ?_ ⟨n, rfl, rfl⟩ ?_) rfl
      · exact busy
      · simpa using alone

/-- Waiting for a restart goes on until it has landed. -/
theorem advances_joined {f : FlightId} {n : FlightOutcome → Job (Session × Verdict)}
    (records : Records config past (.busy r (.act .restart n)))
    (busy : (k.lane .shell).busy = true) (alone : worksOf .shell k.strands = []) :
    k.Advances config past (.joined f fun o => (n o).map (Finish.ofShell r)) := by
  intro cs
  cases landed : k.landing? f with
  | none =>
    simp only [lookup?, landed, Kernel.proceed, Option.map_none, Option.toList_none,
      List.map_nil, List.append_nil]
    exact (Tells.goesOn (.joined f _) (records.allInstalled cs) busy ⟨n, rfl, rfl⟩ alone).retells
      rfl
  | some o =>
    simp only [lookup?, landed, Kernel.proceed]
    have returned : Answered past ⟨.restart, o⟩ := trivial
    exact (Tells.goesOn (.job _) ((records.acts returned).allInstalled cs) busy rfl alone).retells
      rfl

/-- A stop takes its turns until it has ended. -/
theorem advances_stopping {p : StopPhase} {n : StopOutcome → Job (Session × Verdict)}
    (records : Records config past (.busy r (.act .stop n)))
    (busy : (k.lane .shell).busy = true) (alone : worksOf .shell k.strands = []) :
    k.Advances config past (.stopping p fun o => (n o).map (Finish.ofShell r)) := by
  intro cs
  cases ended : p.outcome? with
  | some o =>
    simp only [lookup?, ended, Kernel.proceed]
    have stopped : Answered past ⟨.stop, o⟩ := trivial
    exact (Tells.goesOn (.job _) ((records.acts stopped).allInstalled cs) busy rfl alone).retells
      rfl
  | none =>
    simp only [lookup?, ended, Kernel.proceed, Option.map_none, Option.toList_none,
      List.map_nil, List.append_nil]
    have before := records.allInstalled cs
    cases turn : p.turn with
    | locked step =>
      exact (Tells.goesOn (.stopping _ _) before busy ⟨n, rfl, rfl⟩ alone).retells rfl
    | call c x =>
      have called := StopPhase.errand_of_turn turn (k.backend c k.tooling).1
      exact Tells.aside (Tells.goesOn (.stopping _ _) before busy ⟨n, rfl, rfl⟩ alone) rfl
        (recorded_errand called)
    | finished => exact absurd turn (StopPhase.turn_ne_finished ended)

end Serving

/-- A step of the shell. -/
theorem Tells.proceed {w : Work} (h : Tells config past k [w])
    (alone : worksOf .shell k.strands = []) (counts : k.Counts (installedIn past))
    (stays : w.Stays (some .shell)) : k.Advances config past w := by
  obtain ⟨r, rest, records, busy, continues⟩ := h.serving
  cases w with
  | job j =>
    cases j with
    | done f =>
      intro cs
      simp only [lookup?, Option.toList_none, List.map_nil, List.append_nil]
      exact (h.installed cs).finish alone
    | act a next =>
      obtain ⟨n, rfl, rfl⟩ := Work.continues_act continues
      exact advances_act records busy alone counts stays
  | joined f next =>
    obtain ⟨n, rfl, rfl⟩ := continues
    exact advances_joined records busy alone
  | stopping p next =>
    obtain ⟨n, rfl, rfl⟩ := continues
    exact advances_stopping records busy alone
  | flying f p => exact continues.elim

/-- A turn of a flight or of a stop that the shell has no part in. -/
theorem Tells.takesTurn {φ : Type} {turn : Turn φ} {work : φ → Work}
    (h : Tells config past k (more ++ worksOf .shell k.strands))
    (errand : ∀ c next, turn = .call c next → ∀ t, (Event.called c t).incident? = none) :
    Retells config past k (k.takeTurn turn work (none, k)).2
      (more ++ worksOf .shell (k.takeTurn turn work (none, k)).2.strands) := by
  cases turn with
  | locked step => exact h.retells rfl
  | call c next => exact Tells.aside h rfl (errand c next rfl _)
  | finished => exact h.retells rfl

/-- A step of a strand that belongs to the other loop or to none. -/
theorem Tells.foreign {loop : Option RequestChannel} {w : Work}
    (h : Tells config past k (more ++ worksOf .shell k.strands)) (other : loop ≠ some .shell)
    (stays : w.Stays loop) :
    Retells config past k (k.proceed loop w).2
      (more ++ worksOf .shell (k.proceed loop w).2.strands) := by
  cases w with
  | job j =>
    cases j with
    | done f =>
      cases f with
      | shell r s v => exact absurd stays.symm other
      | call tag result =>
        exact Tells.aside (e := .returned tag result) (h.congr rfl rfl rfl) rfl rfl
      | control r v =>
        let free : Kernel σ :=
          (k.withLane .control (k.lane .control).release).note (.served .control r v)
        have served : Retells config past k free (more ++ worksOf .shell free.strands) :=
          Tells.aside (e := .served .control r v) (h.congr rfl rfl rfl) rfl rfl
        exact served.trans fun _ h => h.feed
    | act a next =>
      cases a with
      | restart =>
        cases pending : k.supervisor.pending with
        | some f =>
          rw [proceed_joins pending]
          exact h.retells rfl
        | none =>
          rw [proceed_creates pending]
          exact Tells.retells (h.congr (by simp) rfl rfl) rfl
      | call c => exact absurd stays.1.1 other
      | emit e =>
        refine Tells.aside (e := .sent loop e) (h.congr rfl rfl rfl) rfl ?_
        cases loop with
        | none => rfl
        | some c =>
          cases c with
          | shell => exact absurd rfl other
          | control => rfl
      | stop => exact h.retells rfl
      | generation => exact h.retells rfl
      | lease => exact h.retells rfl
      | leave => exact Tells.retells (h.congr rfl rfl rfl) rfl
  | joined f next =>
    simp only [Kernel.proceed]
    split
    · exact h.retells rfl
    · exact h.retells rfl
  | stopping p next =>
    simp only [Kernel.proceed]
    split
    · exact h.retells rfl
    · exact h.takesTurn fun c x turn t => recorded_errand (StopPhase.errand_of_turn turn t)
  | flying f p =>
    simp only [Kernel.proceed]
    split
    · exact Tells.retells (h.congr rfl rfl rfl) rfl
    · exact h.takesTurn fun c x turn t => recorded_errand (FlightPhase.errand_of_turn turn t)

theorem Tells.one_strand (h : Tells config past k works) : works.length ≤ 1 := by
  obtain ⟨st, _, stands⟩ := h
  cases st with
  | idle s => simp [stands.1]
  | busy r rest =>
    obtain ⟨_, w, rfl, _⟩ := stands
    exact Nat.le_refl _

/-- A step of a strand between others. -/
theorem Tells.resume {before after : List Strand} {s : Strand}
    (h : Tells config past k (worksOf .shell k.strands))
    (strands : k.strands = before ++ s :: after)
    (orderly : k.Orderly) (counts : k.Counts (installedIn past)) (cs : List SessionId) :
    Retells config
      (past ++ (if s.loop = some .shell then k.lookup? s.work else none).toList.map .did ++
        cs.map .installed)
      k (k.resume before s after) (worksOf .shell (k.resume before s after).strands) := by
  have works : worksOf .shell k.strands = worksOf .shell before ++
      (if s.loop = some .shell then [s.work] else []) ++ worksOf .shell after := by simp [strands]
  have stays : s.work.Stays s.loop := orderly s (by simp [strands])
  rw [works] at h
  rw [resume_strands]
  simp only [worksOf_append, worksOf_strand]
  -- Putting the other strands back changes nothing for the shell.
  have back {told : List Incident} {ws : List Work}
      (stepped : Retells config told k.bare (k.stepped s).2 ws) :
      Retells config told k (k.resume before s after) ws := by
    obtain ⟨es, journal, tells⟩ := stepped
    exact ⟨es, journal, tells.congr rfl rfl rfl⟩
  by_cases own : s.loop = some .shell
  · -- The shell has only this one strand.
    have alone : worksOf .shell before = [] ∧ worksOf .shell after = [] := by
      have few := h.one_strand
      simp only [if_pos own, List.length_append, List.length_singleton] at few
      exact ⟨List.length_eq_zero_iff.mp (by omega), List.length_eq_zero_iff.mp (by omega)⟩
    rw [if_pos own, alone.1, alone.2, List.nil_append, List.append_nil] at h ⊢
    rw [if_pos own]
    have start : Tells config past k.bare [s.work] := h.congr rfl rfl rfl
    refine back ?_
    rw [stepped, own]
    rw [own] at stays
    have counted : k.bare.Counts (installedIn past) := ⟨counts.generation, counts.last⟩
    exact start.proceed rfl counted stays cs
  · rw [if_neg own, List.append_nil] at h
    rw [if_neg own, if_neg own, Option.toList_none, List.map_nil, List.append_nil,
      List.append_nil]
    have start : Tells config (past ++ cs.map .installed) k.bare
        (worksOf .shell before ++ worksOf .shell after ++ worksOf .shell k.bare.strands) :=
      (h.installed cs).congr (by simp) rfl rfl
    exact back (start.foreign own stays)

/-- What a move adds to the chronicle is what was looked up, who became live, and what the
journal remembers. -/
theorem Retells.told {m : Move σ}
    (h : Retells config (past ++ (k.looked? m).toList.map .did ++
      (k.installed? (k.move m)).toList.map .installed) k (k.move m) works) :
    Tells config (past ++ k.incidents m) (k.move m) works := by
  obtain ⟨es, journal, tells⟩ := h
  simpa only [incidents, journal, List.drop_left, List.append_assoc] using tells

/-- Each move takes the shell where its chronicle says. -/
theorem Tells.move (h : Tells config past k (worksOf .shell k.strands)) (orderly : k.Orderly)
    (counts : k.Counts (installedIn past)) (m : Move σ) :
    Tells config (past ++ k.incidents m) (k.move m) (worksOf .shell (k.move m).strands) := by
  -- What becomes live does so before the rest.
  have before : Tells config (past ++ (k.installed? (k.move m)).toList.map .installed) k
      ([] ++ worksOf .shell k.strands) := h.installed _
  refine Retells.told ?_
  generalize (k.installed? (k.move m)).toList = live at before ⊢
  have still {j : Kernel σ} (h : Tells config (past ++ live.map .installed) j
      (worksOf .shell j.strands)) (journal : j.journal = k.journal) :
      Retells config (past ++ (none : Option Occurrence).toList.map .did ++ live.map .installed) k j
        (worksOf .shell j.strands) := by
    simpa using Tells.retells h journal
  have raised (exits : List Nat) :
      Retells config (past ++ (none : Option Occurrence).toList.map .did ++ live.map .installed) k
        { k with exits := exits }.raise (worksOf .shell k.strands) := by
    have told : Retells config (past ++ live.map .installed) k { k with exits := exits }.raise
        (worksOf .shell k.strands) :=
      Tells.aside (e := .signalled) (before.congr rfl rfl rfl) rfl rfl
    simpa using told
  cases m with
  | go i =>
    simp only [looked?, Kernel.move]
    cases found : k.strands[i]? with
    | some s =>
      obtain ⟨bound, rfl⟩ := List.getElem?_eq_some_iff.mp found
      exact h.resume (by simp) orderly counts live
    | none => exact still before rfl
  | look c => simpa [looked?, Kernel.move] using before.feedLane c
  | arrive c m =>
    simp only [looked?, Kernel.move]
    split
    · unfold enqueue
      split
      · exact still before rfl
      · refine still (before.congr (by simp) (by simp) ?_) (by simp)
        cases c <;> rfl
    · exact still before rfl
  | restart tag => exact still (before.congr (by simp [Kernel.move, Kernel.restart]) rfl rfl) rfl
  | stop tag => exact still (before.congr (by simp [Kernel.move, Kernel.stop]) rfl rfl) rfl
  | raise => exact raised k.exits
  | leave t =>
    simp only [looked?, Kernel.move]
    split
    · exact raised _
    · exact still before rfl
  | wait t => exact still (before.congr rfl rfl rfl) rfl
  | change tooling => exact still (before.congr rfl rfl rfl) rfl

/-- What a move adds to the chronicle becomes live by the move. -/
theorem installedIn_incidents (k : Kernel σ) (m : Move σ) :
    installedIn (k.incidents m) = (k.installed? (k.move m)).toList := by
  have nothing (es : List Event) : installedIn (recorded es) = [] := by
    refine List.filterMap_eq_nil_iff.mpr fun x hx => ?_
    obtain ⟨e, _, told⟩ := List.mem_filterMap.mp hx
    have remembered := Event.isRecorded_of_incident told
    cases x with
    | installed c => cases remembered
    | _ => rfl
  have looks (o : Option Occurrence) : installedIn (o.toList.map .did) = [] := by
    cases o <;> rfl
  simp [incidents, nothing, looks]

theorem installedIn_chronicle (k : Kernel σ) (moves : List (Move σ)) :
    installedIn (k.chronicle moves) = k.installs moves := by
  induction moves generalizing k with
  | nil => rfl
  | cons m rest ih => rw [chronicle, installedIn_append, installedIn_incidents, ih, installs]

/-- Every generation began with a session of which the chronicle tells. -/
theorem play_generation (config : KernelConfig) (backend : Backend σ) (tooling : σ)
    (obedient : Bool) (moves : List (Move σ)) :
    let k₀ := new config backend tooling obedient
    (k₀.play moves).supervisor.generation = (installedIn (k₀.chronicle moves)).length := by
  intro k₀
  rw [installedIn_chronicle]
  exact (play_counts config backend tooling obedient moves).2.generation

/-- Under every schedule the chronicle tells where the shell is. -/
theorem play_tells (config : KernelConfig) (backend : Backend σ) (tooling : σ) (obedient : Bool)
    (moves : List (Move σ)) :
    let k₀ := new config backend tooling obedient
    Tells config (k₀.chronicle moves) (k₀.play moves) (worksOf .shell (k₀.play moves).strands) := by
  intro k₀
  have start : Tells config (k₀.chronicle []) k₀ (worksOf .shell k₀.strands) :=
    ⟨_, .start, rfl, rfl⟩
  refine play_keeps_orderly
    (P := fun past k => Tells config (k₀.chronicle past) k (worksOf .shell k.strands))
    (new_orderly config backend tooling obedient) start ?_ moves
  intro past m orderly tells
  have counts : (k₀.play past).Counts (installedIn (k₀.chronicle past)) := by
    rw [installedIn_chronicle]
    exact (play_counts config backend tooling obedient past).2
  rw [chronicle_append]
  simpa [chronicle] using tells.move orderly counts m

theorem isRecorded_of_lookup {w : Work} {o : Occurrence} (h : k.lookup? w = some o) :
    (Incident.did o).isRecorded = false := by
  unfold lookup? at h
  split at h
  · cases h
    rfl
  · cases h
    rfl
  · cases h
    rfl
  · obtain ⟨x, _, rfl⟩ := Option.map_eq_some_iff.mp h
    rfl
  · obtain ⟨x, _, rfl⟩ := Option.map_eq_some_iff.mp h
    rfl
  · cases h

theorem isRecorded_of_looked {m : Move σ} {o : Occurrence} (h : k.looked? m = some o) :
    (Incident.did o).isRecorded = false := by
  cases m with
  | go i =>
    obtain ⟨s, _, looked⟩ := Option.bind_eq_some_iff.mp h
    split at looked
    · exact isRecorded_of_lookup looked
    · cases looked
  | _ => cases h

/-- The journal remembers of a move what it adds to the chronicle, but for what is looked up and
what becomes live. -/
theorem recorded_of_move {m : Move σ} {es : List Event}
    (h : k.journal ++ es = (k.move m).journal) :
    (k.incidents m).filter Incident.isRecorded = recorded es := by
  have unrecorded : ((k.looked? m).toList.map Incident.did).filter Incident.isRecorded = [] := by
    refine List.filter_eq_nil_iff.mpr fun x hx => ?_
    obtain ⟨o, looked, rfl⟩ := List.mem_map.mp hx
    simp [isRecorded_of_looked (Option.mem_toList.mp looked)]
  have installs (live : Option SessionId) :
      (live.toList.map Incident.installed).filter Incident.isRecorded = [] := by
    cases live <;> rfl
  have whole : (recorded es).filter Incident.isRecorded = recorded es := by
    refine List.filter_eq_self.mpr fun x hx => ?_
    obtain ⟨e, _, told⟩ := List.mem_filterMap.mp hx
    exact Event.isRecorded_of_incident told
  simp [incidents, ← h, unrecorded, installs, whole]

/-- The journal remembers what the chronicle tells, but for what is looked up and what becomes
live. -/
theorem recorded_journal (config : KernelConfig) (backend : Backend σ) (tooling : σ)
    (obedient : Bool) (moves : List (Move σ)) :
    let k₀ := new config backend tooling obedient
    recorded (k₀.play moves).journal = (k₀.chronicle moves).filter Incident.isRecorded := by
  intro k₀
  refine play_keeps_orderly
    (P := fun past k => recorded k.journal = (k₀.chronicle past).filter Incident.isRecorded)
    (new_orderly config backend tooling obedient) rfl ?_ moves
  intro past m orderly same
  obtain ⟨es, journal⟩ := move_journal orderly m
  have told : ((k₀.play past).incidents m).filter Incident.isRecorded = recorded es :=
    recorded_of_move journal
  rw [← journal, recorded_append, same, chronicle_append, List.filter_append]
  simp [chronicle, told]

end Kernel

end NotebookKernel
