import NotebookKernel.Proofs.Drafts
import NotebookKernel.Proofs.Execution

/-!
# Episodes of the shell

The shell takes up one request after the other. An episode is such a request together with all
that is done for it and the session before and after. Under every schedule the chronicle is that of
a sequence of episodes, the last of which may have been left unfinished, and the generations that
are looked up in the course of them never go back.
-/

namespace NotebookKernel

open Job

/-- A request that the shell has taken up, and what became of it. -/
structure Episode where
  before : Session
  request : Request
  did : List Occurrence
  after : Session
  verdict : Verdict

/-- The shell has gone through these episodes, each with the session that the one before it left,
and is left with the last of these sessions. -/
inductive Unfolds (config : KernelConfig) : List Episode → Session → Prop
  | start : Unfolds config [] (.new config)
  | next {es : List Episode} {s s' : Session} {r : Request} {t : List Occurrence} {v : Verdict}
      (h : Unfolds config es s) (run : (s.process r).Runs t (s', v))
      (onwards : (s.generation :: generationsIn t).Pairwise (· ≤ ·)) :
      Unfolds config (es ++ [⟨s, r, t, s', v⟩]) s'

/-! ## What a chronicle tells of them -/

def Incident.did? : Incident → Option Occurrence
  | did o => some o
  | _ => none

def Incident.begun? : Incident → Option Request
  | begun r => some r
  | _ => none

/-- What the shell did, with the answers. -/
def doings (past : List Incident) : List Occurrence := past.filterMap Incident.did?

/-- The requests that the shell began. -/
def begunIn (past : List Incident) : List Request := past.filterMap Incident.begun?

@[simp] theorem doings_append (past more : List Incident) :
    doings (past ++ more) = doings past ++ doings more := List.filterMap_append

@[simp] theorem begunIn_append (past more : List Incident) :
    begunIn (past ++ more) = begunIn past ++ begunIn more := List.filterMap_append

@[simp] theorem doings_did (o : Occurrence) : doings [.did o] = [o] := rfl

@[simp] theorem doings_begun (r : Request) : doings [.begun r] = [] := rfl

@[simp] theorem doings_served (r : Request) (v : Verdict) : doings [.served r v] = [] := rfl

@[simp] theorem doings_installed (c : SessionId) : doings [.installed c] = [] := rfl

@[simp] theorem begunIn_did (o : Occurrence) : begunIn [.did o] = [] := rfl

@[simp] theorem begunIn_begun (r : Request) : begunIn [.begun r] = [r] := rfl

@[simp] theorem begunIn_served (r : Request) (v : Verdict) : begunIn [.served r v] = [] := rfl

@[simp] theorem begunIn_installed (c : SessionId) : begunIn [.installed c] = [] := rfl

/-- The shell is in the middle of a request that it took up after these episodes. This was done for
it so far, and this is left. -/
structure Ongoing (config : KernelConfig) (past : List Incident) (es : List Episode) (s : Session)
    (r : Request) (t : List Occurrence) (rest : Job (Session × Verdict)) : Prop where
  unfolds : Unfolds config es s
  goes : (s.process r).Goes t rest
  onwards : (s.generation :: generationsIn t).Pairwise (· ≤ ·)
  reached : ∀ g ∈ s.generation :: generationsIn t, g ≤ (installedIn past).length
  told : doings past = es.flatMap Episode.did ++ t
  begun : begunIn past = es.map Episode.request ++ [r]

/-- The chronicle is that of these episodes, and of one more if the shell is in the middle of a
request. -/
def Stance.Follows (config : KernelConfig) (past : List Incident) (es : List Episode) :
    Stance → Prop
  | idle s =>
      Unfolds config es s ∧ doings past = es.flatMap Episode.did ∧
        begunIn past = es.map Episode.request
  | busy r rest => ∃ s t, Ongoing config past es s r t rest

theorem pairwise_snoc {gs : List Nat} {g : Nat} (h : gs.Pairwise (· ≤ ·))
    (last : ∀ x ∈ gs, x ≤ g) : (gs ++ [g]).Pairwise (· ≤ ·) :=
  List.pairwise_append.mpr ⟨h, List.pairwise_singleton .., by simpa using last⟩

section Chronicles

variable {config : KernelConfig} {past more : List Incident} {es : List Episode} {s : Session}
  {r : Request} {t : List Occurrence} {rest : Job (Session × Verdict)} {st st' : Stance}

/-- The shell was answered what the chronicle says. -/
theorem Records.answered {o : Occurrence} (h : Records config (past ++ [.did o]) st) :
    Answered past o := by
  generalize same : past ++ [.did o] = whole at h
  cases h with
  | start => simp at same
  | acts before answered =>
    obtain ⟨rfl, last⟩ := List.append_inj' same rfl
    cases last
    exact answered
  | _ => cases (List.append_inj' same rfl).2

namespace Ongoing

/-- Nothing happens to the shell. -/
theorem wait (h : Ongoing config past es s r t rest) (nothing : doings more = [])
    (none : begunIn more = []) : Ongoing config (past ++ more) es s r t rest where
  unfolds := h.unfolds
  goes := h.goes
  onwards := h.onwards
  reached g member := (h.reached g member).trans (by simp)
  told := by simp [h.told, nothing]
  begun := by simp [h.begun, none]

/-- The shell goes on by one action. -/
theorem act {a : Action} {next : a.Answer → Job (Session × Verdict)} {x : a.Answer}
    (h : Ongoing config past es s r t (.act a next)) (answered : Answered past ⟨a, x⟩) :
    Ongoing config (past ++ [.did ⟨a, x⟩]) es s r (t ++ [⟨a, x⟩]) (next x) := by
  have later : (s.generation :: generationsIn (t ++ [⟨a, x⟩])).Pairwise (· ≤ ·) ∧
      ∀ g ∈ s.generation :: generationsIn (t ++ [⟨a, x⟩]), g ≤ (installedIn past).length := by
    rw [generationsIn_append, ← List.cons_append]
    cases a with
    | generation =>
      obtain rfl : x = (installedIn past).length := answered
      refine ⟨pairwise_snoc h.onwards h.reached, fun g member => ?_⟩
      rcases List.mem_append.mp member with old | new
      · exact h.reached g old
      · exact (List.mem_singleton.mp new).le
    | _ => simpa [generationsIn] using And.intro h.onwards h.reached
  refine ⟨h.unfolds, h.goes.trans (.act x (.here _)), later.1, ?_, ?_, by simpa using h.begun⟩
  · simpa using later.2
  · simp [h.told]

/-- The shell is done with the request. -/
theorem ends {s' : Session} {v : Verdict} (h : Ongoing config past es s r t (.done (s', v))) :
    (Stance.idle s').Follows config (past ++ [.served r v]) (es ++ [⟨s, r, t, s', v⟩]) :=
  ⟨h.unfolds.next h.goes h.onwards, by simp [h.told], by simp [h.begun]⟩

end Ongoing

/-- One more incident adds at most one episode. -/
theorem Stance.Follows.step {x : Incident} (h : st.Follows config past es) (step : st.Steps x st')
    (records : Records config past st) (answered : ∀ o, x = .did o → Answered past o) :
    ∃ fs, st'.Follows config (past ++ [x]) (es ++ fs) := by
  cases step with
  | installs st c =>
    refine ⟨[], ?_⟩
    rw [List.append_nil]
    cases st with
    | idle s => simpa [Follows] using h
    | busy r rest =>
      obtain ⟨s, t, ongoing⟩ := h
      exact ⟨s, t, ongoing.wait rfl rfl⟩
  | begins s r =>
    obtain ⟨unfolds, told, begun⟩ := h
    have known : s.generation ≤ (installedIn past).length := (records.sound le_rfl).generation.2
    refine ⟨[], s, [], by simpa using unfolds, .here _, List.pairwise_singleton .., ?_,
      by simpa using told, by simpa using begun⟩
    simpa using known
  | @acts r a next x =>
    obtain ⟨s, t, ongoing⟩ := h
    refine ⟨[], s, t ++ [⟨a, x⟩], ?_⟩
    rw [List.append_nil]
    exact ongoing.act (answered _ rfl)
  | ends =>
    obtain ⟨s, t, ongoing⟩ := h
    exact ⟨_, ongoing.ends⟩

/-- What comes later does not change the episodes that there have been. -/
theorem Stance.Follows.extend (h : st.Follows config past es) (records : Records config past st)
    (later : Records config (past ++ more) st') :
    ∃ fs, st'.Follows config (past ++ more) (es ++ fs) := by
  induction more using List.reverseRecOn generalizing st' with
  | nil =>
    rw [List.append_nil] at later ⊢
    exact ⟨[], by rwa [List.append_nil, ← records.unique later]⟩
  | append_singleton more x ih =>
    rw [← List.append_assoc] at later ⊢
    obtain ⟨before, led, step⟩ := later.last
    obtain ⟨fs, follows⟩ := ih led
    obtain ⟨gs, follows'⟩ := follows.step step led fun o same => (same ▸ later).answered
    exact ⟨fs ++ gs, by rwa [← List.append_assoc]⟩

/-- Every chronicle is one of episodes. -/
theorem Records.follows (h : Records config past st) : ∃ es, st.Follows config past es := by
  have start : (Stance.idle (.new config)).Follows config [] [] := ⟨.start, rfl, rfl⟩
  simpa using start.extend .start h

/-! ## What is left of the last episode -/

/-- Every job can be brought to its end, with answers that are right if nothing else happens. -/
theorem Job.exists_runs_answered {α : Type} (j : Job α) (past : List Incident) :
    ∃ t a, j.Runs t a ∧ ∀ o ∈ t, Answered past o := by
  induction j with
  | done a => exact ⟨[], a, .here _, by simp⟩
  | act a next ih =>
    have answer : ∃ x : a.Answer, Answered past ⟨a, x⟩ := by
      cases a with
      | generation => exact ⟨(installedIn past).length, rfl⟩
      | lease => exact ⟨none, by simp [Answered]⟩
      | restart => exact ⟨.ok 0, trivial⟩
      | stop => exact ⟨.stopped, trivial⟩
      | call c => cases c <;> first | exact ⟨.crashed none, trivial⟩ | exact ⟨(), trivial⟩
      | emit e => exact ⟨(), trivial⟩
      | leave => exact ⟨(), trivial⟩
    obtain ⟨x, here⟩ := answer
    obtain ⟨t, b, run, rest⟩ := ih x
    exact ⟨⟨a, x⟩ :: t, b, .act x run, List.forall_mem_cons.mpr ⟨here, rest⟩⟩

theorem generationsIn_answered (h : ∀ o ∈ t, Answered past o) :
    ∀ g ∈ generationsIn t, g = (installedIn past).length := by
  intro g member
  obtain ⟨⟨a, x⟩, inside, looked⟩ := List.mem_filterMap.mp member
  cases a with
  | generation =>
    cases looked
    exact h _ inside
  | _ => cases looked

/-- The request can be brought to its end, and is then an episode. -/
theorem Ongoing.unfolds_on (h : Ongoing config past es s r t rest) {u : List Occurrence}
    {s' : Session} {v : Verdict} (run : rest.Runs u (s', v)) (answered : ∀ o ∈ u, Answered past o) :
    Unfolds config (es ++ [⟨s, r, t ++ u, s', v⟩]) s' := by
  refine h.unfolds.next (h.goes.trans run) ?_
  have looked := generationsIn_answered answered
  rw [generationsIn_append, ← List.cons_append]
  refine List.pairwise_append.mpr ⟨h.onwards, ?_, fun g member g' member' => ?_⟩
  · exact List.pairwise_of_forall_mem_list fun g hg g' hg' => by rw [looked g hg, looked g' hg']
  · rw [looked g' member']
    exact h.reached g member

/-- Episodes of the shell whose chronicle goes on with the rest, and the session after them. -/
structure Concluded (config : KernelConfig) (past : List Incident) (st : Stance)
    (es : List Episode) (rest : List Occurrence) (last : Session) : Prop where
  unfolds : Unfolds config es last
  told : es.flatMap Episode.did = doings past ++ rest
  ends : ∀ e ∈ es.getLast?, rest <:+ e.did
  begun : es.map Episode.request = begunIn past
  idle : ∀ s, st = .idle s → rest = [] ∧ s = last

theorem Ongoing.concluded (h : Ongoing config past es s r t rest) {u : List Occurrence}
    {s' : Session} {v : Verdict} (run : rest.Runs u (s', v)) (answered : ∀ o ∈ u, Answered past o) :
    Concluded config past (.busy r rest) (es ++ [⟨s, r, t ++ u, s', v⟩]) u s' where
  unfolds := h.unfolds_on run answered
  told := by simp [h.told]
  ends := by simp
  begun := by simp [h.begun]
  idle _ same := by cases same

/-- However a request that was begun may go on, the chronicle is the beginning of one of
episodes. -/
theorem Stance.Follows.concluded (h : st.Follows config past es) :
    ∃ fs rest last, Concluded config past st (es ++ fs) rest last := by
  cases st with
  | idle s =>
    obtain ⟨unfolds, told, begun⟩ := h
    refine ⟨[], [], s, ?_, ?_, fun e _ => List.nil_suffix, ?_, ?_⟩
    · simpa using unfolds
    · simp [told]
    · simp [begun]
    · rintro _ ⟨⟩
      exact ⟨rfl, rfl⟩
  | busy r rest =>
    obtain ⟨s, t, ongoing⟩ := h
    obtain ⟨u, ⟨s', v⟩, run, answered⟩ := rest.exists_runs_answered past
    exact ⟨_, u, s', ongoing.concluded run answered⟩

end Chronicles

/-! ## Requests in the order of their arrival -/

theorem begunIn_recorded {past : List Incident} :
    begunIn (past.filter Incident.isRecorded) = begunIn past := by
  unfold begunIn
  rw [List.filterMap_filter]
  refine List.filterMap_congr fun x _ => ?_
  cases x with
  | did o =>
    simp only [Incident.begun?]
    split <;> rfl
  | _ => rfl

theorem begunIn_progress (r : Request) (sent : List Emission) :
    begunIn (recorded (progressOf .shell r sent)) = [r] := by
  have quiet : begunIn (recorded (sent.map (.sent (some .shell)))) = [] := by
    induction sent with
    | nil => rfl
    | cons e rest ih => exact ih
  exact congrArg (r :: ·) quiet

theorem begunIn_handled (handled : List Handled) :
    begunIn (recorded (handled.flatMap (Handled.events .shell))) =
      handled.map Handled.request := by
  induction handled with
  | nil => rfl
  | cons h rest ih =>
    have one : begunIn (recorded (h.events .shell)) = [h.request] := by
      rw [Handled.events, recorded_append, begunIn_append, begunIn_progress]
      rfl
    rw [List.flatMap_cons, recorded_append, begunIn_append, one, ih]
    rfl

/-- The shell begins its requests in the order of their arrival. -/
theorem Loop.begun {arrived : List Request} {l : Lane} {works : List Work} {es : List Event}
    (h : Loop .shell arrived l works es) : begunIn (recorded es) <+: arrived := by
  cases h with
  | free handled queue _ =>
    rw [begunIn_handled]
    exact List.prefix_append ..
  | serving handled r sent w queue _ _ =>
    rw [recorded_append, begunIn_append, begunIn_handled, begunIn_progress]
    exact ⟨queue, by simp⟩
  | ended handled forgotten _ =>
    rw [recorded_append, begunIn_append, begunIn_handled]
    exact ⟨forgotten, by simp [recorded, Event.incident?, begunIn]⟩

namespace Kernel

variable {σ : Type} (config : KernelConfig) (backend : Backend σ) (tooling : σ) (obedient : Bool)

theorem begunIn_past (k : Kernel σ) :
    begunIn (recorded (k.past .shell)) = begunIn (recorded k.journal) := by
  simp only [begunIn, recorded, past, List.filterMap_filterMap, List.filterMap_filter]
  refine List.filterMap_congr fun e _ => ?_
  cases e with
  | begun c r => cases c <;> rfl
  | sent c e => rcases c with _ | _ | _ <;> rfl
  | called c t => cases c <;> rfl
  | served c r v => cases c <;> rfl
  | closed c => cases c <;> rfl
  | signalled => rfl
  | returned tag result => rfl

/-- In the course of a schedule the shell has gone through these episodes, but for the rest of the
last one. Their requests are the first that arrived, in this order. -/
structure GoesThrough (k₀ : Kernel σ) (moves : List (Move σ)) (es : List Episode)
    (rest : List Occurrence) (last : Session) : Prop where
  unfolds : Unfolds k₀.config es last
  told : es.flatMap Episode.did = doings (k₀.chronicle moves) ++ rest
  ends : ∀ e ∈ es.getLast?, rest <:+ e.did
  begun : es.map Episode.request = begunIn (recorded (k₀.play moves).journal)
  arrived : es.map Episode.request <+: arrivals .shell moves
  idle : (k₀.play moves).shell.busy = false → rest = [] ∧ (k₀.play moves).session = last

/-- Episodes of the chronicle are episodes of the schedule. -/
theorem goesThrough_of_concluded {moves : List (Move σ)} {st : Stance} {es : List Episode}
    {rest : List Occurrence} {last : Session}
    (h : Concluded config ((new config backend tooling obedient).chronicle moves) st es rest last)
    (stands : ((new config backend tooling obedient).play moves).Stands
      (worksOf .shell ((new config backend tooling obedient).play moves).strands) st) :
    (new config backend tooling obedient).GoesThrough moves es rest last := by
  have journal : es.map Episode.request =
      begunIn (recorded ((new config backend tooling obedient).play moves).journal) := by
    rw [h.begun, recorded_journal config backend tooling obedient moves, begunIn_recorded]
  have loop : ((new config backend tooling obedient).play moves).LoopIs .shell
      (arrivals .shell moves) [] := play_loop ..
  refine ⟨h.unfolds, h.told, h.ends, journal, ?_, fun free => ?_⟩
  · rw [journal, ← begunIn_past]
    exact Loop.begun loop
  · cases st with
    | idle s =>
      obtain ⟨_, rfl⟩ := stands
      exact h.idle _ rfl
    | busy r rest =>
      have busy : ((new config backend tooling obedient).play moves).shell.busy = true := stands.1
      rw [free] at busy
      cases busy

/-- Under every schedule the shell goes through episodes. -/
theorem play_unfolds (moves : List (Move σ)) :
    let k₀ := new config backend tooling obedient
    let k := k₀.play moves
    ∃ es rest last, Unfolds config es last ∧
      es.flatMap Episode.did = doings (k₀.chronicle moves) ++ rest ∧
      (∀ e ∈ es.getLast?, rest <:+ e.did) ∧
      es.map Episode.request = begunIn (recorded k.journal) ∧
      es.map Episode.request <+: arrivals .shell moves ∧
      (k.shell.busy = false → rest = [] ∧ k.session = last) := by
  intro k₀ k
  obtain ⟨st, records, stands⟩ := play_tells config backend tooling obedient moves
  obtain ⟨first, follows⟩ := records.follows
  obtain ⟨fs, rest, last, concluded⟩ := follows.concluded
  have through := goesThrough_of_concluded config backend tooling obedient concluded stands
  exact ⟨first ++ fs, rest, last, through.unfolds, through.told, through.ends, through.begun,
    through.arrived, through.idle⟩

end Kernel

end NotebookKernel
