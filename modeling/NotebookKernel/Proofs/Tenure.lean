import NotebookKernel.Proofs.Twins

/-!
# The session between requests

Whatever the shell has served, between two requests its session is sound: it keeps the
configuration, it belongs to a generation there has been, and its current cell is what its number
and its text make it. While nothing is served but restarts, it either is of an old generation or
holds nothing.
-/

namespace NotebookKernel

open Job

/-! ## Sound sessions -/

/-- Every number stands for itself, up to a bound. -/
def Numbering.upTo (n : Nat) : Numbering where
  pairs g g' := g = g' ∧ g ≤ n
  exact := by
    rintro g _ m _ ⟨rfl, _⟩ ⟨rfl, _⟩
    rfl

theorem Echoes.self (c : ToolingCall) (x : c.Answer) : Echoes Eq c x c x := by
  cases c with
  | start =>
    cases x with
    | value c => exact .started rfl
    | failed e => exact .failed e
    | crashed m => exact .crashed m
  | compile c cell => exact .compile rfl cell x
  | run c artifact => exact .run rfl artifact x
  | complete c cell span => exact .complete rfl cell span x
  | inspect c cell span => exact .inspect rfl cell span x
  | dispose c => exact .dispose rfl x
  | kill c => exact .kill rfl x

theorem FlightOutcome.Like.self (o : FlightOutcome) : FlightOutcome.Like o o := by
  cases o with
  | ok g => exact .ok g g
  | error e => exact .error e

/-- What is looked up is a number there has been. -/
theorem Occurrence.Like.self {past : List Incident} {n : Nat} {a : Action} {x : a.Answer}
    (answered : Answered past ⟨a, x⟩) (few : (installedIn past).length ≤ n) :
    Occurrence.Like (.upTo n) Eq ⟨a, x⟩ ⟨a, x⟩ := by
  cases a with
  | generation =>
    obtain rfl : x = (installedIn past).length := answered
    exact .generation ⟨rfl, few⟩
  | lease =>
    cases x with
    | none => exact .unleased
    | some l =>
      obtain ⟨number, _⟩ := answered l rfl
      exact .leased rfl ⟨rfl, number ▸ few⟩
  | restart => exact .restart (.self x)
  | stop => exact .stop x
  | call c => exact .call (.self c x)
  | emit e => exact .emit e
  | leave => exact .leave

theorem Service.calls_any (service : Service) : service.Calls fun _ => True := by
  cases service <;> simp [Service.Calls, Action.Calls]

namespace Session

/-- The session is what it can be when so many sessions have become live. -/
abbrev Sound (config : KernelConfig) (n : Nat) (s : Session) : Prop := s.Similar config (.upTo n) s

theorem new_sound (config : KernelConfig) (n : Nat) : (Session.new config).Sound config n :=
  ⟨rfl, rfl, (emptyCells_made config).like, ⟨rfl, Nat.zero_le n⟩, rfl⟩

end Session

/-- Between requests the session is sound, and a request leaves it so. -/
def Stance.Sound (config : KernelConfig) (n : Nat) : Stance → Prop
  | idle s => s.Sound config n
  | busy _ rest =>
      rest.Alike (.upTo n) Eq (fun _ => True) (Session.Served config (.upTo n)) rest

theorem Records.sound {config : KernelConfig} {n : Nat} {past : List Incident} {st : Stance}
    (h : Records config past st) (few : (installedIn past).length ≤ n) : st.Sound config n := by
  induction h with
  | start => exact Session.new_sound config n
  | installs _ c ih =>
    rw [installedIn_append, List.length_append] at few
    exact ih (Nat.le_of_add_right_le few)
  | begins _ r ih =>
    have sound := ih (by simpa using few)
    exact sound.process fun service _ => service.calls_any
  | @acts past r a x next _ answered ih =>
    have few : (installedIn past).length ≤ n := by simpa using few
    cases ih few with
    | act _ _ rest => exact rest _ _ (.self answered few)
  | ends _ ih =>
    cases ih (by simpa using few) with
    | done served => exact served.1

/-! ## Where a chronicle leads -/

/-- What one incident does to where the shell is. -/
inductive Stance.Steps : Stance → Incident → Stance → Prop
  | installs (st : Stance) (c : SessionId) : Steps st (.installed c) st
  | begins (s : Session) (r : Request) : Steps (.idle s) (.begun r) (.busy r (s.process r))
  | acts {r : Request} {a : Action} {next : a.Answer → Job (Session × Verdict)} (x : a.Answer) :
      Steps (.busy r (.act a next)) (.did ⟨a, x⟩) (.busy r (next x))
  | ends {r : Request} {s : Session} {v : Verdict} :
      Steps (.busy r (.done (s, v))) (.served r v) (.idle s)

theorem Stance.Steps.unique {st st' st'' : Stance} {x : Incident} (h : st.Steps x st')
    (h' : st.Steps x st'') : st' = st'' := by
  cases h <;> cases h' <;> rfl

section Chronicles

variable {config : KernelConfig} {past : List Incident} {st st' : Stance}

/-- The last incident of a chronicle is a step from where the ones before it lead. -/
theorem Records.last {x : Incident} (h : Records config (past ++ [x]) st) :
    ∃ before, Records config past before ∧ before.Steps x st := by
  generalize same : past ++ [x] = whole at h
  have split {past' : List Incident} {x' : Incident} (same : past ++ [x] = past' ++ [x']) :
      past = past' ∧ x = x' := by
    obtain ⟨front, back⟩ := List.append_inj' same rfl
    exact ⟨front, List.singleton_inj.mp back⟩
  cases h with
  | start => simp at same
  | installs before c =>
    obtain ⟨rfl, rfl⟩ := split same
    exact ⟨_, before, .installs st c⟩
  | begins before r =>
    obtain ⟨rfl, rfl⟩ := split same
    exact ⟨_, before, .begins _ r⟩
  | acts before answered =>
    obtain ⟨rfl, rfl⟩ := split same
    exact ⟨_, before, .acts _⟩
  | ends before =>
    obtain ⟨rfl, rfl⟩ := split same
    exact ⟨_, before, .ends⟩

theorem Records.first (h : Records config [] st) : st = .idle (.new config) := by
  generalize same : ([] : List Incident) = whole at h
  cases h with
  | start => rfl
  | _ => simp at same

/-- A chronicle leads to one place. -/
theorem Records.unique (h : Records config past st) (h' : Records config past st') : st = st' := by
  induction past using List.reverseRecOn generalizing st st' with
  | nil => rw [h.first, h'.first]
  | append_singleton past x ih =>
    obtain ⟨before, led, step⟩ := h.last
    obtain ⟨before', led', step'⟩ := h'.last
    obtain rfl := ih led led'
    exact step.unique step'

end Chronicles

/-! ## While the tooling is replaced -/

/-- The request asks for a restart. -/
def Request.Restarts (r : Request) : Prop :=
  r.msgType = Service.shutdown.msgType ∧ r.content = .shutdown true

namespace Session

/-- The session is of an old generation, or holds nothing. -/
structure Expired (config : KernelConfig) (n : Nat) (s : Session) : Prop where
  configured : s.config = config
  blank : s.generation ≤ n ∨ s.cells = emptyCells config ∧ s.setupBuilt = false

variable {config : KernelConfig} {n : Nat} {s : Session}

theorem Expired.adopt (h : s.Expired config n) (g : Nat) : (s.adopt g).Expired config n := by
  unfold Session.adopt
  split
  · exact h
  · exact ⟨h.configured, Or.inr ⟨by rw [h.configured], rfl⟩⟩

/-- A restart does not change that. -/
theorem Expired.process (h : s.Expired config n) {r : Request} (restarts : r.Restarts) :
    (s.process r).Within (fun _ => True) fun x => x.1.Expired config n := by
  obtain ⟨typed, content⟩ := restarts
  have routed : Service.find? .shell r.msgType = some .shutdown := by
    rw [typed]
    rfl
  have renewed (g : Nat) : (restartTooling .shell r (s.adopt g).sync).Within (fun _ => True)
      fun t => t.Expired config n :=
    ⟨trivial, fun _ => ⟨trivial, fun g' => ⟨trivial, fun _ => (h.adopt g).adopt g'⟩⟩⟩
  rw [process_eq]
  refine ⟨trivial, fun g => ?_⟩
  simp only [handle, routed, serve, content]
  have served : ((restartTooling .shell r (s.adopt g).sync).bind fun t =>
      done (t, (.ok () : Verdict))).Within (fun _ => True) fun x => x.1.Expired config n :=
    (renewed g).bind fun _ left => left
  exact ⟨trivial, fun _ => served.bind fun _ left => ⟨trivial, fun _ => left⟩⟩

end Session

/-- Whatever is left to do, the session will be expired. -/
def Stance.Expired (config : KernelConfig) (n : Nat) : Stance → Prop
  | idle s => s.Expired config n
  | busy _ rest => rest.Within (fun _ => True) fun x => x.1.Expired config n

section Chronicles

variable {config : KernelConfig} {n : Nat} {past more : List Incident} {st st' : Stance}

theorem Stance.Expired.step {x : Incident} (h : st.Expired config n) (step : st.Steps x st')
    (only : ∀ r, x = .begun r → r.Restarts) : st'.Expired config n := by
  cases step with
  | installs => exact h
  | begins s r => exact Session.Expired.process h (only r rfl)
  | acts x => exact h.2 x
  | ends => exact h

/-- A session expires while nothing but restarts is served. -/
theorem Records.expired (h : Records config past st) (start : st.Expired config n)
    (records : Records config (past ++ more) st') (only : ∀ r, .begun r ∈ more → r.Restarts) :
    st'.Expired config n := by
  induction more using List.reverseRecOn generalizing st' with
  | nil =>
    rw [List.append_nil] at records
    exact records.unique h ▸ start
  | append_singleton more x ih =>
    rw [← List.append_assoc] at records
    obtain ⟨before, led, step⟩ := records.last
    refine (ih led fun r begun => only r (List.mem_append_left _ begun)).step step ?_
    rintro r rfl
    exact only r (by simp)

end Chronicles

namespace Kernel

variable {σ : Type} (config : KernelConfig) (backend : Backend σ) (tooling : σ) (obedient : Bool)

/-- A shell that serves nothing is where its chronicle says. -/
theorem play_idle (moves : List (Move σ)) :
    let k₀ := new config backend tooling obedient
    (k₀.play moves).shell.busy = false →
      Records config (k₀.chronicle moves) (.idle (k₀.play moves).session) ∧
        (installedIn (k₀.chronicle moves)).length = (k₀.play moves).supervisor.generation := by
  intro k₀ free
  obtain ⟨st, records, stands⟩ := play_tells config backend tooling obedient moves
  refine ⟨?_, ?_⟩
  · cases st with
    | idle s =>
      obtain ⟨_, rfl⟩ := stands
      exact records
    | busy r rest =>
      have busy : (k₀.play moves).shell.busy = true := stands.1
      rw [free] at busy
      cases busy
  · exact (play_generation config backend tooling obedient moves).symm

/-- Between requests the session is sound. -/
theorem play_sound (moves : List (Move σ)) :
    let k := (new config backend tooling obedient).play moves
    k.shell.busy = false → k.session.Sound config k.supervisor.generation := by
  intro k free
  obtain ⟨records, count⟩ := play_idle config backend tooling obedient moves free
  exact records.sound (Nat.le_of_eq count)

/-- What the shell began in the course of a schedule is in the journal. -/
theorem begun_of_chronicle {past moves : List (Move σ)} {r : Request} {k : Kernel σ}
    (played : k = (new config backend tooling obedient).play past)
    (begun : .begun r ∈ k.chronicle moves) :
    .begun .shell r ∈ (k.play moves).journal.drop k.journal.length := by
  have proper : k.Proper := played ▸ (new_proper config backend tooling obedient).play past
  obtain ⟨es, written⟩ := play_journal proper.orderly moves
  have before := recorded_journal config backend tooling obedient past
  have whole := recorded_journal config backend tooling obedient (past ++ moves)
  simp only [play_append, chronicle_append, List.filter_append, ← played] at before whole
  rw [← written, recorded_append, before, List.append_cancel_left_eq] at whole
  have told : Incident.begun r ∈ recorded es := by
    rw [whole, List.mem_filter]
    exact ⟨begun, rfl⟩
  obtain ⟨e, member, tells⟩ := List.mem_filterMap.mp told
  obtain rfl : e = .begun .shell r := by
    unfold Event.incident? at tells
    split at tells <;> cases tells
    rfl
  rw [← written, List.drop_left]
  exact member

/-- A session expires while nothing but restarts is served. -/
theorem play_expired {past during : List (Move σ)} {k : Kernel σ}
    (played : k = (new config backend tooling obedient).play past) (free : k.shell.busy = false)
    (free' : (k.play during).shell.busy = false)
    (only : ∀ r, .begun .shell r ∈ (k.play during).journal.drop k.journal.length → r.Restarts) :
    (k.play during).session.Expired config k.supervisor.generation := by
  have idle := play_idle config backend tooling obedient past
  have later := play_idle config backend tooling obedient (past ++ during)
  have sound := play_sound config backend tooling obedient past
  simp only [play_append, chronicle_append, ← played] at idle later sound
  have start : (Stance.idle k.session).Expired config k.supervisor.generation :=
    ⟨(sound free).configured, Or.inl (sound free).generation.2⟩
  exact (idle free).1.expired start (later free').1 fun r begun =>
    only r (begun_of_chronicle config backend tooling obedient played begun)

end Kernel

end NotebookKernel
