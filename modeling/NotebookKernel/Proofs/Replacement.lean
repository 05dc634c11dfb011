import NotebookKernel.Proofs.Counting
import NotebookKernel.Proofs.Farewell
import NotebookKernel.Proofs.Reset
import NotebookKernel.Proofs.Succession

/-!
# Whether a restart replaces the session of the caller

A call for a restart that succeeds is told of a generation that began after the call, and the
cells of the shell that makes it are discarded: unless the call joins a flight that has begun its
generation and has yet to free the way. Such a call is told that it succeeded although nothing was
replaced after it was made, and a shell that makes it keeps its cells.
-/

namespace NotebookKernel

open Job

/-! ## The strand of the shell -/

namespace Kernel

variable {σ : Type} {k : Kernel σ} {f : FlightId} {i j : Nat} {m : Move σ} {s : Strand}
  {next : FlightOutcome → Job Finish}

/-- The shell is told the outcome of a restart when it goes on after the flight has landed. -/
theorem returns_of_incident {o : FlightOutcome} (h : .did ⟨.restart, o⟩ ∈ k.incidents m) :
    ∃ i s f next, m = .go i ∧ k.strands[i]? = some s ∧ s.loop = some .shell ∧
      s.work = .joined f next ∧ k.landing? f = some o := by
  simp only [incidents, List.mem_append] at h
  rcases h with (looked | installed) | told
  · obtain ⟨x, looked, same⟩ := List.mem_map.mp looked
    cases same
    cases m with
    | go i =>
      obtain ⟨s, found, looked⟩ := Option.bind_eq_some_iff.mp (Option.mem_toList.mp looked)
      split at looked
      · rename_i own
        cases work : s.work with
        | joined f next =>
          rw [work] at looked
          obtain ⟨o', landed, same⟩ := Option.map_eq_some_iff.mp looked
          cases same
          exact ⟨i, s, f, next, rfl, found, own, work, landed⟩
        | stopping p next =>
          rw [work] at looked
          obtain ⟨o', _, same⟩ := Option.map_eq_some_iff.mp looked
          cases same
        | flying f p =>
          rw [work] at looked
          cases looked
        | job j =>
          rw [work] at looked
          cases j with
          | done x => cases looked
          | act a next => cases a <;> cases looked
      · cases looked
    | _ => cases Option.mem_toList.mp looked
  · obtain ⟨c, _, same⟩ := List.mem_map.mp installed
    cases same
  · obtain ⟨e, _, tells⟩ := List.mem_filterMap.mp told
    cases Event.isRecorded_of_incident tells

section

variable (config : KernelConfig) (backend : Backend σ) (tooling : σ) (obedient : Bool)

/-- While a flight is on its way, the shell that waits for it stays where it is. -/
theorem play_stays_joined {past : List (Move σ)} (moves : List (Move σ))
    (played : k = (new config backend tooling obedient).play past) (found : k.strands[j]? = some s)
    (own : s.loop = some .shell) (waits : s.work = .joined f next)
    (quiet : k.deedsOf j moves = []) :
    (∃ i t, k.track j moves = some i ∧ (k.play moves).strands[i]? = some t ∧
      t.loop = some .shell ∧ t.work = .joined f next) ∧
      ∀ o, .did ⟨.restart, o⟩ ∉ k.chronicle moves := by
  induction moves generalizing k past j s with
  | nil => exact ⟨⟨j, s, rfl, found, own, waits⟩, by simp [chronicle]⟩
  | cons m rest ih =>
    have after : k.move m = (new config backend tooling obedient).play (past ++ [m]) := by
      simp [played]
    have alone : (worksOf .shell k.strands).length ≤ 1 :=
      played ▸ (play_tells config backend tooling obedient past).one_strand
    -- if the flight had landed, the shell would have been told
    have aloft (mover : m.mover? = some j) : k.landing? f = none := by
      cases m with
      | go i =>
        cases mover
        cases landed : k.landing? f with
        | none => rfl
        | some o => simp [deedsOf, deed?, found, deedOf?, waits, landed, Move.mover?] at quiet
      | _ => cases mover
    have untold (o : FlightOutcome) : .did ⟨.restart, o⟩ ∉ k.incidents m := by
      intro told
      obtain ⟨i, t, f', next', rfl, goes, own', work, landed⟩ := returns_of_incident told
      obtain rfl := worksOf_unique alone goes own' found own
      obtain rfl := Option.some.inj (goes.symm.trans found)
      cases work.symm.trans waits
      cases landed.symm.trans (aloft rfl)
    obtain ⟨i, t, place, kept, loop, waits', same⟩ := follow_of_joined found waits aloft
    rw [same] at quiet
    obtain ⟨⟨i', t', place', kept', own', work'⟩, untold'⟩ :=
      ih after kept (loop.trans own) waits' quiet
    refine ⟨⟨i', t', ?_, kept', own', work'⟩, fun o told => ?_⟩
    · simpa [track, place] using place'
    · exact (List.mem_append.mp told).elim (untold o) (untold' o)

end

end Kernel

/-! ## The episode of a restart -/

section Chronicles

variable {config : KernelConfig} {past more : List Incident} {es : List Episode} {s : Session}
  {r : Request} {t : List Occurrence} {rest : Job (Session × Verdict)} {st : Stance}

/-- A shell that is not answered does nothing. -/
theorem Records.waits {a : Action} {next : a.Answer → Job (Session × Verdict)}
    (h : Records config past (.busy r (.act a next))) (records : Records config (past ++ more) st)
    (unanswered : ∀ x : a.Answer, .did ⟨a, x⟩ ∉ more) :
    st = .busy r (.act a next) ∧ doings more = [] ∧ begunIn more = [] := by
  induction more using List.reverseRecOn generalizing st with
  | nil =>
    rw [List.append_nil] at records
    exact ⟨records.unique h, rfl, rfl⟩
  | append_singleton more x ih =>
    rw [← List.append_assoc] at records
    obtain ⟨before, led, step⟩ := records.last
    obtain ⟨rfl, nothing, none⟩ := ih led fun x told => unanswered x (List.mem_append_left _ told)
    cases step with
    | installs => simp [nothing, none]
    | acts x => exact (unanswered x (by simp)).elim

/-- The episode is of this request, and begins with what was done for it. What was looked up
afterwards is no earlier generation than this one. -/
structure Episode.Resumes (s : Session) (r : Request) (t : List Occurrence) (g : Nat)
    (e : Episode) : Prop where
  before : e.before = s
  request : e.request = r
  did : ∃ u, e.did = t ++ u ∧ ∀ x ∈ generationsIn u, g ≤ x

/-- The request is still being served from where it was, or its episode is over and others may have
come after it. -/
inductive Stance.GoesOn (config : KernelConfig) (past : List Incident) (es : List Episode)
    (s : Session) (r : Request) (t : List Occurrence) (g : Nat) : Stance → Prop
  | serving {u : List Occurrence} {rest : Job (Session × Verdict)}
      (ongoing : Ongoing config past es s r (t ++ u) rest) (looked : ∀ x ∈ generationsIn u, g ≤ x) :
      GoesOn config past es s r t g (.busy r rest)
  | followed {st : Stance} {e : Episode} {fs : List Episode}
      (follows : st.Follows config past (es ++ e :: fs)) (resumes : e.Resumes s r t g) :
      GoesOn config past es s r t g st

theorem generationsIn_later {u v : List Occurrence} {g : Nat}
    (looked : ∀ x ∈ generationsIn u, g ≤ x) (answered : ∀ o ∈ v, Answered past o)
    (reached : g ≤ (installedIn past).length) : ∀ x ∈ generationsIn (u ++ v), g ≤ x := by
  intro x member
  rw [generationsIn_append, List.mem_append] at member
  rcases member with old | new
  · exact looked x old
  · rwa [generationsIn_answered answered x new]

namespace Stance.GoesOn

variable {g : Nat} {st' : Stance}

theorem step {x : Incident} (h : st.GoesOn config past es s r t g) (step : st.Steps x st')
    (before : Records config past st) (records : Records config (past ++ [x]) st')
    (reached : g ≤ (installedIn past).length) : st'.GoesOn config (past ++ [x]) es s r t g := by
  cases h with
  | serving ongoing looked =>
    cases step with
    | installs st c => exact .serving (ongoing.wait rfl rfl) looked
    | @acts r a next x =>
      have answered := records.answered
      have acted := ongoing.act answered
      rw [List.append_assoc] at acted
      exact .serving acted (generationsIn_later looked (by simpa using answered) reached)
    | ends => exact .followed ongoing.ends ⟨rfl, rfl, _, rfl, looked⟩
  | followed follows resumes =>
    obtain ⟨fs, follows⟩ := follows.step step before fun o same => (same ▸ records).answered
    rw [List.append_assoc, List.cons_append] at follows
    exact .followed follows resumes

theorem concluded (h : st.GoesOn config past es s r t g)
    (reached : g ≤ (installedIn past).length) :
    ∃ e fs left last, Concluded config past st (es ++ e :: fs) left last ∧
      e.Resumes s r t g := by
  cases h with
  | @serving u rest ongoing looked =>
    obtain ⟨v, ⟨s', verdict⟩, run, answered⟩ := rest.exists_runs_answered past
    have later := generationsIn_later looked answered reached
    exact ⟨_, [], v, s', ongoing.concluded run answered, rfl, rfl, u ++ v, by simp, later⟩
  | @followed _ e fs follows resumes =>
    obtain ⟨gs, left, last, concluded⟩ := follows.concluded
    rw [List.append_assoc, List.cons_append] at concluded
    exact ⟨e, fs ++ gs, left, last, concluded, resumes⟩

end Stance.GoesOn

/-- A request that is being served is served as it goes on, and others come after it. -/
theorem Ongoing.resumes (h : Ongoing config past es s r t rest)
    (records : Records config past (.busy r rest)) (later : Records config (past ++ more) st) :
    ∃ e fs left last, Concluded config (past ++ more) st (es ++ e :: fs) left last ∧
      e.Resumes s r t (installedIn past).length := by
  have goesOn : st.GoesOn config (past ++ more) es s r t (installedIn past).length := by
    induction more using List.reverseRecOn generalizing st with
    | nil =>
      rw [List.append_nil] at later ⊢
      rw [later.unique records]
      exact .serving (u := []) (by simpa using h) (by simp)
    | append_singleton more x ih =>
      rw [← List.append_assoc] at later ⊢
      obtain ⟨before, led, step⟩ := later.last
      exact (ih led).step step led later (by simp)
  exact goesOn.concluded (by simp)

end Chronicles

/-! ## What a restart does to the cells -/

namespace Session

variable {s s' : Session} {r : Request} {t : List Occurrence} {v : Verdict} {g g' n : Nat}

/-- What belongs to a generation other than the last one that was looked up is discarded. -/
theorem adopt_adopt_cells (s : Session) (g : Nat) {g' : Nat} (other : s.generation ≠ g') :
    ((s.adopt g).adopt g').cells = emptyCells s.config := by
  have known := s.adopt_generation g
  by_cases same : g = g'
  · subst same
    rw [adopt, if_pos known, adopt, if_neg other]
  · rw [adopt, if_neg (by rwa [known])]
    unfold adopt
    split <;> rfl

theorem shutDown_stops : (shutDown .shell r).Within (· ≠ .restart) fun _ => True := by
  refine ⟨by simp, fun o => ?_⟩
  cases o with
  | crashed m => trivial
  | stopped => exact ⟨by simp, fun _ => ⟨by simp, fun _ => trivial⟩⟩

/-- What is done for a request that has the tooling restarted, if that succeeds. -/
theorem process_restarted (run : (s.process r).Runs t (s', v)) (called : ⟨.restart, .ok n⟩ ∈ t) :
    r.Restarts ∧ ∃ g g', s' = (s.adopt g).adopt g' ∧
      t = [⟨.generation, g⟩, ⟨.emit (.broadcast r (.status true)), ()⟩, ⟨.restart, .ok n⟩,
        ⟨.generation, g'⟩, ⟨.emit (.reply .shell r (.shutdownOk true)), ()⟩,
        ⟨.emit (.broadcast r (.status false)), ()⟩] := by
  obtain ⟨g, rfl, _⟩ | ⟨g, service, u, routed, served, rfl⟩ := process_runs run
  · simp at called
  · have called : ⟨.restart, .ok n⟩ ∈ u := by simpa using called
    have without {j : Job (Session × Verdict)} {allowed : Action → Prop}
        {good : Session × Verdict → Prop} (run : j.Runs u (s', v)) (h : j.Within allowed good)
        (never : ¬allowed .restart) : False := never ((Goes.within run h).1 _ called)
    by_cases other : service ≠ .shutdown
    · exact (without served ((s.adopt g).serve_routine other) id).elim
    · obtain rfl := not_ne_iff.mp other
      have typed : r.msgType = Service.shutdown.msgType := by
        have found := List.find?_some routed
        exact (beq_iff_eq.mp found).symm
      cases content : r.content with
      | shutdown again =>
        cases again with
        | true =>
          simp only [serve, content, restartTooling, sync, perform, Job.reply, bind_eq, pure_eq,
            Job.bind, runs_act, runs_done] at served
          obtain ⟨o, _, rfl, g', _, rfl, _, _, rfl, rfl, same⟩ := served
          cases same
          obtain rfl : .ok n = o := by simpa using called
          exact ⟨⟨typed, content⟩, g, g', rfl, rfl⟩
        | false =>
          simp only [serve, content] at served
          have stops : ((shutDown .shell r).bind fun v => done (s.adopt g, v)).Within
              (· ≠ .restart) fun _ => True := shutDown_stops.bind fun _ _ => trivial
          exact (without served stops fun never => never rfl).elim
      | _ =>
        simp only [serve, content] at served
        obtain ⟨rfl, _⟩ := runs_done.mp served
        simp at called

/-- The session belongs to what was looked up after the restart. -/
theorem looked_after_restart {before after : List Occurrence}
    (run : (s.process r).Runs (before ++ ⟨.restart, .ok n⟩ :: after) (s', v)) :
    s'.generation ∈ generationsIn after := by
  have called : ⟨.restart, .ok n⟩ ∈ before ++ ⟨.restart, .ok n⟩ :: after := by simp
  obtain ⟨_, g, g', rfl, did⟩ := process_restarted run called
  rw [adopt_generation]
  rcases before with _ | ⟨x, _ | ⟨y, _ | ⟨z, before⟩⟩⟩
  · simp at did
  · simp at did
  · obtain ⟨_, _, rfl⟩ : _ ∧ _ ∧ after = _ := by simpa using did
    simp
  · have again : ⟨.restart, .ok n⟩ ∈ before ++ ⟨.restart, .ok n⟩ :: after := by simp
    simp only [List.cons_append, List.cons.injEq] at did
    rw [did.2.2.2] at again
    simp at again

end Session

/-- A restart that the shell was asked for has been answered ok, and the cells are discarded. There
are none until an execution is accepted later, and this one gets the count 0. -/
structure Episode.Resets (config : KernelConfig) (e : Episode) (later : List Episode) : Prop where
  restarts : e.request.Restarts
  sent : sentIn e.did = [.broadcast e.request (.status true),
    .reply .shell e.request (.shutdownOk true), .broadcast e.request (.status false)]
  cells : e.after.cells = Session.emptyCells config
  empty : ∀ mid e' rest, later = mid ++ e' :: rest → (∀ m ∈ mid, m.execution? = none) →
    e'.execution? = none → e'.after.cells.submitted = []
  counted : ∀ mid e' rest, later = mid ++ e' :: rest → (∀ m ∈ mid, m.execution? = none) →
    ∀ code, e'.request.code? = some code → leasesIn e'.did ≠ [] →
      e'.execution? = some ⟨code, [0, 0, 0]⟩

theorem Request.Restarts.code {r : Request} (h : r.Restarts) : r.code? = none := by
  unfold Request.code?
  simp [h.2]

namespace Unfolds

variable {config : KernelConfig} {es fs : List Episode} {e : Episode} {last : Session}

theorem run (h : Unfolds config (es ++ e :: fs) last) :
    (e.before.process e.request).Runs e.did (e.after, e.verdict) :=
  h.each (P := fun _ e => (e.before.process e.request).Runs e.did (e.after, e.verdict))
    (fun _ run _ => run) rfl

theorem holds_before (h : Unfolds config (es ++ e :: fs) last) :
    e.before.config = config ∧ ∀ m ∈ es, m.after.generation ≤ e.before.generation :=
  h.each (P := fun es e => e.before.config = config ∧
      ∀ m ∈ es, m.after.generation ≤ e.before.generation)
    (fun earlier _ _ => ⟨earlier.holds.1.configured, earlier.holds.2⟩) rfl

/-- An episode that led to no execution and left its generation begins a generation without
cells. -/
theorem executions_nil {mid : List Episode} {g : Nat} (h : Unfolds config (es ++ e :: fs) last)
    (later : e.before.generation < g) (idle : e.execution? = none)
    (none : ∀ m ∈ mid, m.execution? = none) : executions g (es ++ e :: mid) = [] := by
  refine List.filterMap_eq_nil_iff.mpr fun m member => ?_
  rcases List.mem_append.mp member with old | new
  · have := h.holds_before.2 m old
    exact if_neg (by omega)
  · rcases List.mem_cons.mp new with rfl | new
    · simp [idle]
    · simp [none m new]

/-- A restart that leads to a later generation resets the shell. -/
theorem resets {n : Nat} (h : Unfolds config (es ++ e :: fs) last)
    (called : ⟨.restart, .ok n⟩ ∈ e.did) (later : e.before.generation < e.after.generation) :
    e.Resets config fs := by
  obtain ⟨restarts, g, g', after, did⟩ := Session.process_restarted h.run called
  have idle : e.execution? = none := by simp [Episode.execution?, restarts.code]
  have fresh : e.after.generation = g' := by rw [after, Session.adopt_generation]
  -- no execution has been accepted in the generation of a later episode
  have first {mid rest : List Episode} {e' : Episode} (cut : fs = mid ++ e' :: rest)
      (none : ∀ m ∈ mid, m.execution? = none) :
      e'.Counted config (es ++ e :: mid) ∧
        executions e'.after.generation (es ++ e :: mid) = [] := by
    have whole : es ++ e :: fs = (es ++ e :: mid) ++ e' :: rest := by simp [cut]
    have counted : e'.Counted config (es ++ e :: mid) :=
      h.each (fun earlier run onwards => earlier.counted run onwards) whole
    have onwards := counted.onwards e (by simp)
    exact ⟨counted, h.executions_nil (by omega) idle none⟩
  refine ⟨restarts, by rw [did]; rfl, ?_, fun mid e' rest cut none idle' => ?_,
    fun mid e' rest cut none code asked accepted => ?_⟩
  · rw [after, Session.adopt_adopt_cells _ _ (by omega), h.holds_before.1]
  · obtain ⟨counted, nothing⟩ := first cut none
    rw [counted.cells, executions_append, nothing, executions_singleton _ _ rfl, idle']
    rfl
  · obtain ⟨counted, nothing⟩ := first cut none
    have number := (counted.accepted code asked accepted).1
    rw [nothing] at number
    exact number

end Unfolds

namespace Kernel

variable {σ : Type} {k : Kernel σ} {config : KernelConfig} {backend : Backend σ} {tooling : σ}
  {obedient : Bool} {earlier during : List (Move σ)} {i j : Nat} {f : FlightId} {b : Bool} {g : Nat}

/-- A strand that is about to be told the outcome of its flight. -/
theorem joined_of_returns {o : FlightOutcome} {s : Strand} (found : k.strands[j]? = some s)
    (told : k.deed? (.go j) = some (.returns f o)) :
    ∃ next, s.work = .joined f next ∧ k.landing? f = some o := by
  rw [deed?, found, Option.bind_some] at told
  cases work : s.work with
  | joined f' next =>
    rw [work] at told
    obtain ⟨o', landed, same⟩ := Option.map_eq_some_iff.mp told
    cases same
    exact ⟨next, rfl, landed⟩
  | job j =>
    rw [work] at told
    cases j with
    | done x => cases told
    | act a next => cases a <;> cases told
  | stopping p next =>
    rw [work] at told
    simp only [deedOf?] at told
    split at told <;> cases told
  | flying f' p =>
    rw [work] at told
    simp only [deedOf?] at told
    split at told <;> cases told

/-- Whoever is told the outcome of a flight is told first. -/
theorem incidents_of_returns {o : FlightOutcome} {s : Strand} (found : k.strands[j]? = some s)
    (own : s.loop = some .shell) (told : k.deed? (.go j) = some (.returns f o)) :
    ∃ more, k.incidents (.go j) = .did ⟨.restart, o⟩ :: more := by
  obtain ⟨next, work, landed⟩ := joined_of_returns found told
  have looked : k.looked? (.go j) = some ⟨.restart, o⟩ := by
    simp [looked?, found, own, lookup?, work, landed]
  rw [incidents, looked]
  exact ⟨_, rfl⟩

end Kernel

/-- A strand calls for a restart and joins the flight. It waits for it, and after some moves it is
about to be told the outcome. -/
structure Kernel.RestartReturns {σ : Type} (k : Kernel σ) (i : Nat) (during : List (Move σ))
    (j : Nat) (f : FlightId) (o : FlightOutcome) : Prop where
  waits : ∃ b, k.deed? (.go i) = some (.joins f b) ∧
    k.deedsOf i (.go i :: during) = [.joins f b]
  place : k.track i (.go i :: during) = some j
  told : (k.play (.go i :: during)).deed? (.go j) = some (.returns f o)

/-- The strand belongs to the shell. -/
def Kernel.ShellAt {σ : Type} (k : Kernel σ) (i : Nat) : Prop :=
  (k.strands[i]?).bind Strand.loop = some .shell

instance {σ : Type} (k : Kernel σ) (i : Nat) : Decidable (k.ShellAt i) :=
  inferInstanceAs (Decidable (_ = _))

namespace Deed

variable {d : Deed} {f : FlightId} {o : FlightOutcome}

/-- The flight that a call for a restart joins. -/
def joined? : Deed → Option FlightId
  | joins f _ => some f
  | _ => none

/-- What a call for a restart is told. -/
def told? : Deed → Option (FlightId × FlightOutcome)
  | returns f o => some (f, o)
  | _ => none

theorem joined?_eq_some : d.joined? = some f ↔ ∃ b, d = .joins f b := by
  cases d <;> simp [joined?]

theorem told?_eq_some : d.told? = some (f, o) ↔ d = .returns f o := by
  cases d <;> simp [told?]

end Deed

theorem Kernel.restartReturns_iff {σ : Type} {k : Kernel σ} {i j : Nat} {during : List (Move σ)}
    {f : FlightId} {o : FlightOutcome} :
    k.RestartReturns i during j f o ↔ (k.deed? (.go i)).bind Deed.joined? = some f ∧
      (k.deedsOf i (.go i :: during)).length = 1 ∧ k.track i (.go i :: during) = some j ∧
      ((k.play (.go i :: during)).deed? (.go j)).bind Deed.told? = some (f, o) := by
  constructor
  · rintro ⟨⟨b, call, waits⟩, place, told⟩
    exact ⟨by rw [call]; rfl, by rw [waits]; rfl, place, by rw [told]; rfl⟩
  · rintro ⟨call, waits, place, told⟩
    obtain ⟨d, call, joined⟩ := Option.bind_eq_some_iff.mp call
    obtain ⟨b, rfl⟩ := Deed.joined?_eq_some.mp joined
    obtain ⟨d, told, returned⟩ := Option.bind_eq_some_iff.mp told
    obtain rfl := Deed.told?_eq_some.mp returned
    refine ⟨⟨b, call, ?_⟩, place, told⟩
    simp only [deedsOf, Move.mover?, if_pos, call, Option.toList_some, List.singleton_append,
      List.length_cons, Nat.add_eq_right, List.length_eq_zero_iff] at waits ⊢
    rw [waits]

instance {σ : Type} (k : Kernel σ) (i : Nat) (during : List (Move σ)) (j : Nat) (f : FlightId)
    (o : FlightOutcome) : Decidable (k.RestartReturns i during j f o) :=
  decidable_of_iff _ Kernel.restartReturns_iff.symm

namespace Kernel

variable {σ : Type} {config : KernelConfig} {backend : Backend σ} {tooling : σ}
  {obedient : Bool} {earlier during : List (Move σ)} {i j : Nat} {f : FlightId}
  {o : FlightOutcome} {g : Nat}

/-- A call that returns joins a flight and does nothing more until it is told the outcome. -/
theorem RestartReturns.joins {k : Kernel σ} {s : Strand} (h : k.RestartReturns i during j f o)
    (found : k.strands[i]? = some s) :
    ∃ next wake, s.work = .job (.act .restart next) ∧
      (k.move (.go i)).strands[i]? = some ⟨wake, .joined f next, s.loop⟩ ∧
      (k.move (.go i)).deedsOf i during = [] ∧ (k.move (.go i)).track i during = some j := by
  obtain ⟨⟨b, call, waits⟩, place, _⟩ := h
  obtain ⟨next, wake, work, stays, joined⟩ := joined_of_call found call
  refine ⟨next, wake, work, joined, ?_, ?_⟩
  · rw [deedsOf, stays, call] at waits
    simpa [Move.mover?] using waits
  · rw [track, stays] at place
    exact place

/-- The shell calls for a restart in the middle of a request. -/
theorem play_calls {s : Strand} {next : FlightOutcome → Job Finish}
    (found : ((new config backend tooling obedient).play earlier).strands[i]? = some s)
    (own : s.loop = some .shell) (work : s.work = .job (.act .restart next)) :
    ∃ r sequel, Records config ((new config backend tooling obedient).chronicle earlier)
      (.busy r (.act .restart sequel)) := by
  have tells := play_tells config backend tooling obedient earlier
  simp only at tells
  rw [worksOf_eq tells.one_strand found own] at tells
  obtain ⟨r, _, records, _, continues⟩ := tells.serving
  rw [work] at continues
  obtain ⟨sequel, rfl, _⟩ := Work.continues_act continues
  exact ⟨r, sequel, records⟩

/-- Whoever is about to call for a restart is not told the outcome of one. -/
theorem untold_of_call {k : Kernel σ} {s : Strand} {next : FlightOutcome → Job Finish}
    (found : k.strands[i]? = some s) (work : s.work = .job (.act .restart next))
    (o : FlightOutcome) : .did ⟨.restart, o⟩ ∉ k.incidents (.go i) := by
  intro told
  obtain ⟨_, s', _, _, same, found', _, work', _⟩ := returns_of_incident told
  cases same
  obtain rfl := Option.some.inj (found.symm.trans found')
  cases work.symm.trans work'

/-- The shell waits in the middle of a request, and goes on when the flight has landed. -/
theorem play_returns
    (h : ((new config backend tooling obedient).play earlier).RestartReturns i during j f o)
    (own : ((new config backend tooling obedient).play earlier).ShellAt i) :
    let k₀ := new config backend tooling obedient
    let k := k₀.play earlier
    let l := k.play (.go i :: during)
    let past := k₀.chronicle earlier ++ k.chronicle (.go i :: during)
    ∃ es s r t sequel, Ongoing config (k₀.chronicle earlier) es s r t (.act .restart sequel) ∧
      Records config past (.busy r (.act .restart sequel)) ∧
      Ongoing config past es s r t (.act .restart sequel) ∧
      (f, o) ∈ l.landings ∧ ∃ more, l.incidents (.go j) = .did ⟨.restart, o⟩ :: more := by
  intro k₀ k l past
  obtain ⟨s, found, own⟩ := Option.bind_eq_some_iff.mp own
  obtain ⟨next, wake, work, joined, quiet, place⟩ := h.joins found
  obtain ⟨r, sequel, records⟩ := play_calls found own work
  obtain ⟨es, s₀, t, ongoing⟩ := records.follows
  -- nothing happens to the request until the flight has landed
  have moved : k.move (.go i) = k₀.play (earlier ++ [.go i]) := by simp [k]
  obtain ⟨⟨j', t', place', found', own', _⟩, untold⟩ :=
    play_stays_joined config backend tooling obedient during moved joined own rfl quiet
  obtain rfl : j' = j := Option.some.inj (place'.symm.trans place)
  obtain ⟨st, waited, _⟩ := play_tells config backend tooling obedient (earlier ++ .go i :: during)
  rw [chronicle_append] at waited
  obtain ⟨rfl, nothing, none⟩ := records.waits waited fun o => by
    rw [chronicle, List.mem_append, not_or]
    exact ⟨untold_of_call found work o, untold o⟩
  obtain ⟨_, _, landed⟩ := joined_of_returns found' h.told
  exact ⟨es, s₀, r, t, sequel, ongoing, waited, ongoing.wait nothing none,
    landed_of_landing landed, incidents_of_returns found' own' h.told⟩

/-- The request for which the shell called for a restart goes on when the restart has
succeeded. -/
theorem play_resumes
    (h : ((new config backend tooling obedient).play earlier).RestartReturns i during j f (.ok g))
    (own : ((new config backend tooling obedient).play earlier).ShellAt i)
    (later : List (Move σ)) :
    let k₀ := new config backend tooling obedient
    let k := k₀.play earlier
    ∃ es e fs rest last,
      k₀.GoesThrough (earlier ++ .go i :: during ++ .go j :: later) (es ++ e :: fs) rest last ∧
        begunIn (recorded k.journal) = es.map Episode.request ++ [e.request] ∧
        ⟨.restart, .ok g⟩ ∈ e.did ∧ e.before.generation ≤ k.supervisor.generation ∧
        g ≤ e.after.generation := by
  intro k₀ k
  let l := k.play (.go i :: during)
  let past := k₀.chronicle earlier ++ k.chronicle (.go i :: during)
  have split : l = k₀.play (earlier ++ .go i :: during) := (play_append ..).symm
  obtain ⟨es, s, r, t, sequel, called, waited, waits, landed, more, told⟩ := play_returns h own
  have whole : k₀.chronicle (earlier ++ .go i :: during ++ .go j :: later) =
      past ++ [.did ⟨.restart, .ok g⟩] ++ (more ++ (l.move (.go j)).chronicle later) := by
    have first : l.chronicle (.go j :: later) =
        .did ⟨.restart, .ok g⟩ :: more ++ (l.move (.go j)).chronicle later := by
      rw [chronicle, show l.incidents (.go j) = _ from told]
    rw [chronicle_append, chronicle_append, ← split, first]
    simp [past, k]
  obtain ⟨st, records, stands⟩ :=
    play_tells config backend tooling obedient (earlier ++ .go i :: during ++ .go j :: later)
  rw [whole] at records
  have answered : Answered past ⟨.restart, .ok g⟩ := trivial
  obtain ⟨e, fs, left, last, concluded, resumes⟩ :=
    (waits.act answered).resumes (waited.acts answered) records
  rw [← whole] at concluded
  have through := goesThrough_of_concluded config backend tooling obedient concluded stands
  obtain ⟨u, did, looked⟩ := resumes.did
  refine ⟨es, e, fs, left, last, through, ?_, ?_, ?_, ?_⟩
  · rw [resumes.request, ← called.begun, recorded_journal config backend tooling obedient earlier,
      begunIn_recorded]
  · simp [did]
  · -- the shell has looked at the generation before it called
    rw [resumes.before, play_generation config backend tooling obedient earlier]
    exact called.reached _ List.mem_cons_self
  · -- and looks again after it was told
    have run := through.unfolds.run
    rw [did, List.append_assoc] at run
    have again := looked _ (Session.looked_after_restart run)
    have dated : l.traffic.Dated := split ▸ play_dated config backend tooling obedient _
    have reached : g ≤ l.supervisor.generation := dated.past f g (Or.inr landed)
    rw [split, play_generation, chronicle_append] at reached
    rw [installedIn_append, installedIn_did, List.append_nil] at again
    exact reached.trans again

/-- A restart replaces the session of whoever calls for it. A call that succeeds is told of a
generation that began after the call, and if the shell made it, the shell has no cells any more
and gives the next execution that is accepted the count 0. The only exception are calls that join
a flight which has begun its generation and has yet to free the way: they are told the generation
of the call. -/
theorem restart_replaces (config : KernelConfig) (backend : Backend σ) (tooling : σ)
    (obedient : Bool) (earlier during : List (Move σ)) (i j : Nat) (f : FlightId) (g : Nat)
    (returns : ((new config backend tooling obedient).play earlier).RestartReturns i during j f
      (.ok g)) :
    let k₀ := new config backend tooling obedient
    let k := k₀.play earlier
    let present := k.supervisor.generation
    g ≤ (k.play (.go i :: during ++ [.go j])).supervisor.generation ∧
      ((f, .clearing (.ok g)) ∈ k.traffic.flights ∧ g = present ∨
        (∀ n, (f, .clearing (.ok n)) ∉ k.traffic.flights) ∧ present < g ∧
          (k.ShellAt i → ∀ later, ∃ es e fs rest last,
            k₀.GoesThrough (earlier ++ .go i :: during ++ .go j :: later) (es ++ e :: fs) rest
                last ∧
              begunIn (recorded k.journal) = es.map Episode.request ++ [e.request] ∧
              e.Resets config fs)) := by
  intro k₀ k present
  obtain ⟨b, call, _⟩ := returns.waits
  have proper : k.Proper := (new_proper config backend tooling obedient).play earlier
  have told : .returns f (.ok g) ∈ k.deeds (.go i :: during ++ [.go j]) := by
    rw [deeds_append, deeds_cons _ (.go j), returns.told]
    simp
  obtain ⟨begun, replaced⟩ := proper.restart_told
    (play_dated config backend tooling obedient earlier) call (during ++ [.go j]) told
  refine ⟨begun, replaced.imp_right fun ⟨late, after⟩ => ⟨late, after, fun own later => ?_⟩⟩
  obtain ⟨es, e, fs, rest, last, through, served, called, before, fresh⟩ :=
    play_resumes returns own later
  refine ⟨es, e, fs, rest, last, through, served, through.unfolds.resets called ?_⟩
  exact (before.trans_lt after).trans_le fresh

/-- A cell has been executed, and a front-end asks for a restart. The shell is about to call for
it. -/
def executedBefore : List (Move Nat) :=
  started ++ serving asksForX ++ [.arrive .shell asksForRestart, .look .shell, .go 0, .go 0]

/-- The cell is discarded. -/
theorem restart_discards_cells :
    let k := plainKernel.play executedBefore
    k.session.cells.submitted.length = 1 ∧ k.supervisor.generation = 1 ∧
      ∃ es e fs rest last, plainKernel.GoesThrough
        (executedBefore ++ .go 0 :: List.replicate 8 (.go 1) ++
          .go 0 :: List.replicate 4 (.go 0)) (es ++ e :: fs) rest last ∧
        e.Resets .standard fs := by
  intro k
  have returns : k.RestartReturns 0 (List.replicate 8 (.go 1)) 0 1 (.ok 2) := by decide +kernel
  have own : k.ShellAt 0 := by decide +kernel
  have quiet : k.traffic.flights = 0 := Multiset.card_eq_zero.mp (by decide +kernel)
  have cells : k.session.cells.submitted.length = 1 := by decide +kernel
  have generation : k.supervisor.generation = 1 := by decide +kernel
  refine ⟨cells, generation, ?_⟩
  rcases (restart_replaces .standard plainTooling 0 true executedBefore _ 0 0 1 2 returns).2 with
    ⟨clearing, _⟩ | ⟨_, _, resets⟩
  · rw [show ((new .standard plainTooling 0 true).play executedBefore).traffic.flights = 0
      from quiet] at clearing
    exact (Multiset.notMem_zero _ clearing).elim
  · obtain ⟨es, e, fs, rest, last, through, _, reset⟩ := resets own (List.replicate 4 (.go 0))
    exact ⟨es, e, fs, rest, last, through, reset⟩

end Kernel

/-- How the restart turned out that is told of. -/
def Payload.restarted? : Payload → Option String
  | .shutdownReply outcome true => some outcome
  | _ => none

namespace Kernel

/-- The first flight has begun its generation, but it has yet to free the way. Meanwhile a cell has
been executed, and the shell is about to call for a restart. -/
def executedMeanwhile : List (Move Nat) :=
  .restart 0 :: .go 0 :: List.replicate 5 (.go 1) ++ [.arrive .shell asksForX, .look .shell] ++
    List.replicate 14 (.go 2) ++ [.arrive .shell asksForRestart, .look .shell, .go 2, .go 2]

/-- The shell calls for the restart, the flight frees the way and lands, and the shell answers the
request. -/
def restartAnswered : List (Move Nat) :=
  .go 2 :: [.go 1, .go 1] ++ .go 1 :: List.replicate 4 (.go 1)

/-- A restart that replaces nothing. The call is told the generation in which it was made, and the
request is answered ok. The cell is still there, and the next one gets the count 1. -/
theorem restart_keeps_cells :
    let k := plainKernel.play executedMeanwhile
    let l := k.play restartAnswered
    let m := l.play (.arrive .shell asksForX :: .look .shell :: List.replicate 14 (.go 1))
    k.supervisor.generation = 1 ∧ k.ShellAt 2 ∧
      k.RestartReturns 2 [.go 1, .go 1] 1 0 (.ok 1) ∧
      (l.emitted.drop k.emitted.length).filterMap (·.payload.restarted?) = ["ok"] ∧
      l.shell.busy = false ∧ l.session.cells.submitted.length = 1 ∧
      countsOf (m.emitted.drop l.emitted.length) = [1, 1, 1] := by
  decide +kernel

end Kernel

end NotebookKernel
