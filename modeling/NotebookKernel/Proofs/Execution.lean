import NotebookKernel.Kernel.Service
import NotebookKernel.Proofs.Job

/-!
# What an execution says

An accepted execution is announced, reports its progress, and then ends with one reply
and one broadcast that agree. How it ends is decided by the calls to the tooling that it
made: `Builds` lists which calls these are and what their answers come to, whether they
give values, errors or crashes.
-/

namespace NotebookKernel

open Json Job

theorem intercalate_splitAtChar (cs : List Char) :
    "\n".intercalate ((splitAtChar '\n' cs).map String.ofList) = String.ofList cs := by
  induction cs with
  | nil => simp [splitAtChar]
  | cons c rest ih =>
    obtain ⟨piece, more, h⟩ := List.exists_cons_of_ne_nil (splitAtChar_ne_nil '\n' rest)
    rw [h, List.map_cons] at ih
    by_cases hc : c = '\n'
    · subst c
      simp only [splitAtChar, h, if_pos, List.map_cons, String.intercalate_cons_cons, ih]
      rw [show "\n" = String.ofList ['\n'] from rfl, ← String.ofList_append,
        ← String.ofList_append]
      rfl
    · have hp : String.ofList (c :: piece) = String.ofList [c] ++ String.ofList piece := by
        rw [← String.ofList_append]; rfl
      simp only [splitAtChar, h, if_neg hc, List.map_cons, hp, String.intercalate_cons_append, ih]
      rw [← String.ofList_append]
      rfl

/-- The lines of a text, joined again. -/
theorem intercalate_splitLines (text : String) : "\n".intercalate (splitLines text) = text := by
  rw [splitLines, intercalate_splitAtChar, String.ofList_toList]

/-- The generations that a session looked up in a trace. -/
def generationsIn (t : List Occurrence) : List Nat :=
  t.filterMap fun
    | ⟨.generation, g⟩ => some g
    | _ => none

@[simp] theorem generationsIn_nil : generationsIn [] = [] := rfl

@[simp] theorem generationsIn_emit (e : Emission) (x : Unit) (t : List Occurrence) :
    generationsIn (⟨.emit e, x⟩ :: t) = generationsIn t := rfl

@[simp] theorem generationsIn_generation (g : Nat) (t : List Occurrence) :
    generationsIn (⟨.generation, g⟩ :: t) = g :: generationsIn t := rfl

@[simp] theorem generationsIn_append (t u : List Occurrence) :
    generationsIn (t ++ u) = generationsIn t ++ generationsIn u :=
  List.filterMap_append

/-- The live sessions of the tooling that were granted in a trace. -/
def leasesIn (t : List Occurrence) : List Lease :=
  t.filterMap fun
    | ⟨.lease, some l⟩ => some l
    | _ => none

@[simp] theorem leasesIn_nil : leasesIn [] = [] := rfl

@[simp] theorem leasesIn_emit (e : Emission) (x : Unit) (t : List Occurrence) :
    leasesIn (⟨.emit e, x⟩ :: t) = leasesIn t := rfl

@[simp] theorem leasesIn_generation (g : Nat) (t : List Occurrence) :
    leasesIn (⟨.generation, g⟩ :: t) = leasesIn t := rfl

@[simp] theorem leasesIn_append (t u : List Occurrence) :
    leasesIn (t ++ u) = leasesIn t ++ leasesIn u :=
  List.filterMap_append

/-- A note about the progress of a request. -/
def IsNote (r : Request) (e : Emission) : Prop := ∃ text, e = .broadcast r (.progress text)

/-- Only notes are sent, and the supervisor is not asked for anything. -/
structure OnlyNotes (r : Request) (t : List Occurrence) : Prop where
  sent : ∀ e ∈ sentIn t, IsNote r e
  generations : generationsIn t = []
  leases : leasesIn t = []

namespace OnlyNotes

variable {r : Request} {t u : List Occurrence}

theorem nil (r : Request) : OnlyNotes r [] := ⟨by simp, rfl, rfl⟩

theorem note {text : String} {x : Unit} (h : OnlyNotes r t) :
    OnlyNotes r (⟨.emit (.broadcast r (.progress text)), x⟩ :: t) where
  sent e he := by
    rcases List.mem_cons.mp he with rfl | he
    · exact ⟨text, rfl⟩
    · exact h.sent e he
  generations := h.generations
  leases := h.leases

theorem call {c : ToolingCall} {x : c.Answer} (h : OnlyNotes r t) :
    OnlyNotes r (⟨.call c, x⟩ :: t) := ⟨h.sent, h.generations, h.leases⟩

theorem append (ht : OnlyNotes r t) (hu : OnlyNotes r u) : OnlyNotes r (t ++ u) where
  sent e he := by
    rw [sentIn_append, List.mem_append] at he
    exact he.elim (ht.sent e) (hu.sent e)
  generations := by rw [generationsIn_append, ht.generations, hu.generations]; rfl
  leases := by rw [leasesIn_append, ht.leases, hu.leases]; rfl

theorem texts (h : OnlyNotes r t) :
    ∃ notes : List String, sentIn t = notes.map fun text => .broadcast r (.progress text) := by
  have sent := h.sent
  generalize sentIn t = es at sent
  induction es with
  | nil => exact ⟨[], rfl⟩
  | cons e es ih =>
    obtain ⟨text, rfl⟩ := sent e List.mem_cons_self
    obtain ⟨notes, rfl⟩ := ih fun e he => sent e (List.mem_cons_of_mem _ he)
    exact ⟨text :: notes, rfl⟩

end OnlyNotes

namespace Session

/-- The setup cell, if it has to be compiled before the next cell. -/
def setupDue (s : Session) : Option Cell :=
  if s.setupBuilt ∨ trim s.cells.setup.source = "" then none else some s.cells.setup

/-- The calls that build the setup cell if it is due, and what they come to. -/
inductive SetsUp (tooling : SessionId) : Option Cell → List Occurrence → Outcome Unit → Prop
  | ready : SetsUp tooling none [] (.value ())
  | compiled (setup : Cell) (a : Artifact) :
      SetsUp tooling (some setup) [⟨.call (.compile tooling setup), .value a⟩] (.value ())
  | failed (setup : Cell) (e : ToolingError) :
      SetsUp tooling (some setup) [⟨.call (.compile tooling setup), .failed e⟩] (.failed e)
  | crashed (setup : Cell) (m : Option String) :
      SetsUp tooling (some setup) [⟨.call (.compile tooling setup), .crashed m⟩] (.crashed m)

/-- The calls that build a cell, and what they come to. Nothing is called after a call that
gave no value. -/
inductive Builds (tooling : SessionId) (due : Option Cell) (cell : Cell) :
    List Occurrence → Outcome Dict → Prop
  | setupFailed {t : List Occurrence} {e : ToolingError} (h : SetsUp tooling due t (.failed e)) :
      Builds tooling due cell t (.failed e)
  | setupCrashed {t : List Occurrence} {m : Option String}
      (h : SetsUp tooling due t (.crashed m)) : Builds tooling due cell t (.crashed m)
  | undeclared {t : List Occurrence} (h : SetsUp tooling due t (.value ()))
      (absent : cell.module = none) :
      Builds tooling due cell t (.failed (.missingModule cell.sequence))
  | compileFailed {t : List Occurrence} (h : SetsUp tooling due t (.value ()))
      (named : cell.module ≠ none) (e : ToolingError) :
      Builds tooling due cell (t ++ [⟨.call (.compile tooling cell), .failed e⟩]) (.failed e)
  | compileCrashed {t : List Occurrence} (h : SetsUp tooling due t (.value ()))
      (named : cell.module ≠ none) (m : Option String) :
      Builds tooling due cell (t ++ [⟨.call (.compile tooling cell), .crashed m⟩]) (.crashed m)
  | ran {t : List Occurrence} (h : SetsUp tooling due t (.value ()))
      (named : cell.module ≠ none) (a : Artifact) (o : Outcome Dict) :
      Builds tooling due cell
        (t ++ [⟨.call (.compile tooling cell), .value a⟩, ⟨.call (.run tooling a), o⟩]) o

theorem ensureSetup_runs {s s' : Session} {r : Request} {tooling : SessionId}
    {t : List Occurrence} {o : Outcome Unit}
    (run : (s.ensureSetup r tooling).Runs t (s', o)) :
    OnlyNotes r t ∧ SetsUp tooling s.setupDue (callsIn t) o ∧
      s' = { s with setupBuilt := s'.setupBuilt } := by
  simp only [ensureSetup, progress, pure_eq, bind_eq, broadcast, perform, Job.bind] at run
  split at run
  · obtain ⟨rfl, h⟩ := runs_done.mp run
    cases h
    have ready : s.setupDue = none := by simp_all [setupDue]
    exact ⟨.nil r, ready ▸ .ready, rfl⟩
  · split at run
    · obtain ⟨rfl, h⟩ := runs_done.mp run
      cases h
      have ready : s.setupDue = none := by simp_all [setupDue]
      exact ⟨.nil r, ready ▸ .ready, rfl⟩
    · have due : s.setupDue = some s.cells.setup := by simp_all [setupDue]
      simp only [runs_act] at run
      obtain ⟨_, _, rfl, x, t, rfl, run⟩ := run
      cases x with
      | failed e =>
        obtain ⟨rfl, h⟩ := runs_done.mp run
        cases h
        exact ⟨.note (.call (.nil r)), due ▸ .failed _ e, rfl⟩
      | crashed m =>
        obtain ⟨rfl, h⟩ := runs_done.mp run
        cases h
        exact ⟨.note (.call (.nil r)), due ▸ .crashed _ m, rfl⟩
      | value a =>
        simp only [runs_act, runs_done] at run
        obtain ⟨_, _, rfl, rfl, h⟩ := run
        cases h
        exact ⟨.note (.call (.note (.nil r))), due ▸ .compiled _ a, rfl⟩

theorem compileAndRun_runs {r : Request} {tooling : SessionId} {cell : Cell}
    {t before : List Occurrence} {due : Option Cell} {o : Outcome Dict}
    (setup : SetsUp tooling due before (.value ()))
    (run : (compileAndRun r tooling cell).Runs t o) :
    OnlyNotes r t ∧ Builds tooling due cell (before ++ callsIn t) o := by
  simp only [compileAndRun, progress, pure_eq, bind_eq, broadcast, perform, Job.bind] at run
  split at run
  · obtain ⟨rfl, rfl⟩ := runs_done.mp run
    exact ⟨.nil r, by simpa [callsIn] using Builds.undeclared setup ‹_›⟩
  · simp only [runs_act] at run
    obtain ⟨_, _, rfl, x, t, rfl, run⟩ := run
    cases x with
    | failed e =>
      obtain ⟨rfl, rfl⟩ := runs_done.mp run
      exact ⟨.note (.call (.nil r)), .compileFailed setup ‹_› e⟩
    | crashed m =>
      obtain ⟨rfl, rfl⟩ := runs_done.mp run
      exact ⟨.note (.call (.nil r)), .compileCrashed setup ‹_› m⟩
    | value a =>
      simp only [runs_act, runs_done] at run
      obtain ⟨_, _, rfl, o, _, rfl, rfl, rfl⟩ := run
      exact ⟨.note (.call (.note (.call (.nil r)))), .ran setup ‹_› a _⟩

/-- Building a cell makes the calls it should and changes nothing but whether the setup cell
has been built. -/
theorem build_runs {s s' : Session} {r : Request} {tooling : SessionId} {cell : Cell}
    {t : List Occurrence} {o : Outcome Dict}
    (run : (s.build r tooling cell).Runs t (s', o)) :
    OnlyNotes r t ∧ Builds tooling s.setupDue cell (callsIn t) o ∧
      s' = { s with setupBuilt := s'.setupBuilt } := by
  obtain ⟨u, ⟨s₁, ready⟩, v, rfl, setup, rest⟩ := runs_bind.mp run
  obtain ⟨notes, calls, frame⟩ := ensureSetup_runs setup
  cases ready with
  | failed e =>
    obtain ⟨rfl, h⟩ := runs_done.mp rest
    cases h
    rw [List.append_nil]
    exact ⟨notes, .setupFailed calls, frame⟩
  | crashed m =>
    obtain ⟨rfl, h⟩ := runs_done.mp rest
    cases h
    rw [List.append_nil]
    exact ⟨notes, .setupCrashed calls, frame⟩
  | value _ =>
    obtain ⟨w, o', x, rfl, compiling, rest⟩ := runs_bind.mp rest
    obtain ⟨rfl, h⟩ := runs_done.mp rest
    cases h
    obtain ⟨more, built⟩ := compileAndRun_runs calls compiling
    rw [List.append_nil, callsIn_append]
    exact ⟨notes.append more, built, frame⟩

/-- The session in hand has adopted every generation that it saw. -/
theorem lease_runs {s s' : Session} {t : List Occurrence} {tooling : Option SessionId}
    (run : s.lease.Runs t (s', tooling)) :
    sentIn t = [] ∧ callsIn t = [] ∧ s' = (generationsIn t).foldl adopt s ∧
      (leasesIn t).map Lease.session = tooling.toList := by
  simp only [lease, sync, pure_eq, bind_eq, perform, Job.bind, runs_act] at run
  obtain ⟨x, u, rfl, run⟩ := run
  cases x with
  | none =>
    obtain ⟨rfl, h⟩ := runs_done.mp run
    cases h
    exact ⟨rfl, rfl, rfl, rfl⟩
  | some l =>
    by_cases same : l.generation = s.generation
    · simp only [same, if_true, runs_done] at run
      obtain ⟨rfl, h⟩ := run
      cases h
      exact ⟨rfl, rfl, rfl, rfl⟩
    · simp only [same, if_false, runs_act, runs_done] at run
      obtain ⟨g, _, rfl, rfl, h⟩ := run
      cases h
      exact ⟨rfl, rfl, rfl, rfl⟩

/-- What is told of an execution that failed: the same failure to the one who asked and to
everyone, with the lines of a text as its traceback. -/
def ReportsFailure (n : Int) (text : String) (answered announced : Payload) : Prop :=
  ∃ e : ErrorContent, answered = .executeReply (.error n e) ∧ announced = .error n e ∧
    "\n".intercalate e.traceback = text

/-- What is told of an execution with an outcome. -/
def Reports (n : Int) : Outcome Dict → Payload → Payload → Prop
  | .value data, answered, announced =>
      answered = .executeReply (.success n) ∧ announced = .executeResult n data []
  | .failed e, answered, announced => ReportsFailure n e.message answered announced
  | .crashed m, answered, announced =>
      ReportsFailure n ("handler panicked: " ++ crashText m) answered announced

theorem reportsFailure_ofText (n : Int) (ename text : String) :
    ReportsFailure n text (.executeReply (.error n (.ofText ename text)))
      (.error n (.ofText ename text)) :=
  ⟨_, rfl, rfl, intercalate_splitLines text⟩

/-- Reporting a failure with a text, and going on. -/
theorem reportFailure_runs {α : Type} {r : Request} {n : Int} {e : ErrorContent}
    {next : Job α} {t : List Occurrence} {a : α}
    (run : ((reportFailure r n e).bind fun _ => next).Runs t a) :
    ∃ u, t = ⟨.emit (.reply .shell r (.executeReply (.error n e))), ()⟩ ::
      ⟨.emit (.broadcast r (.error n e)), ()⟩ :: u ∧ next.Runs u a := by
  simp only [reportFailure, reply, bind_eq, broadcast, Job.reply, perform, Job.bind,
    runs_act] at run
  obtain ⟨_, _, rfl, _, u, rfl, run⟩ := run
  exact ⟨u, rfl, run⟩

/-- An execution that found the kernel running. -/
theorem execute_runs {s s' : Session} {r : Request} {code : String} {t : List Occurrence}
    {v : Verdict} {l : Lease} (run : (s.execute r code).Runs t (s', v))
    (accepted : l ∈ leasesIn t) :
    ∃ (base : Session) (cell : Cell) (notes : List String) (o : Outcome Dict)
      (answered announced : Payload),
      base = (generationsIn t).foldl adopt s ∧
      cell = (base.cells.update code).current ∧
      Builds l.session base.setupDue cell (callsIn t) o ∧
      Reports cell.sequence o answered announced ∧
      sentIn t = .broadcast r (.executeInput code cell.sequence) ::
        (notes.map (fun text => .broadcast r (.progress text)) ++
          [.reply .shell r answered, .broadcast r announced]) ∧
      s'.cells = (base.cells.update code).submit.2 ∧ s'.owed = none := by
  obtain ⟨t₁, ⟨base, tooling⟩, t₂, rfl, leasing, told⟩ := runs_bind.mp run
  obtain ⟨sent₁, calls₁, adopted, granted⟩ := lease_runs leasing
  cases tooling with
  | none =>
    simp only [reply, Job.reply, perform, bind_eq, Job.bind, pure_eq, runs_act, runs_done] at told
    obtain ⟨_, _, rfl, rfl, _⟩ := told
    have none : leasesIn t₁ = [] := List.map_eq_nil_iff.mp granted
    simp [none] at accepted
  | some tooling =>
    simp only [bind_eq, broadcast, perform, Job.bind, runs_act] at told
    obtain ⟨_, t₃, rfl, built⟩ := told
    obtain ⟨t₄, ⟨s₁, o⟩, t₅, rfl, building, reported⟩ := runs_bind.mp built
    obtain ⟨quiet, calls, frame⟩ := build_runs building
    obtain ⟨notes, sent₄⟩ := quiet.texts
    let n := (base.cells.update code).current.sequence
    have ending : ∃ answered announced, Reports n o answered announced ∧
        t₅ = [⟨.emit (.reply .shell r answered), ()⟩, ⟨.emit (.broadcast r announced), ()⟩] ∧
        s' = { s₁ with owed := none } := by
      cases o with
      | value data =>
        simp only [reply, Job.reply, perform, Job.bind, pure_eq, runs_act, runs_done] at reported
        obtain ⟨_, _, rfl, _, _, rfl, rfl, h⟩ := reported
        cases h
        exact ⟨_, _, ⟨rfl, rfl⟩, rfl, rfl⟩
      | failed e =>
        obtain ⟨_, rfl, rest⟩ := reportFailure_runs reported
        obtain ⟨rfl, h⟩ := runs_done.mp rest
        cases h
        exact ⟨_, _, reportsFailure_ofText n _ _, rfl, rfl⟩
      | crashed m =>
        have owed : s₁.owed = some n := by rw [frame]; rfl
        obtain ⟨t₆, s₂, t₇, rfl, abandoned, rest⟩ := runs_bind.mp reported
        simp only [abandon, owed] at abandoned
        obtain ⟨_, rfl, done⟩ := reportFailure_runs abandoned
        obtain ⟨rfl, rfl⟩ := runs_done.mp done
        obtain ⟨rfl, h⟩ := runs_done.mp rest
        cases h
        exact ⟨_, _, reportsFailure_ofText n _ _, rfl, rfl⟩
    obtain ⟨answered, announced, reports, rfl, rfl⟩ := ending
    have held : l ∈ leasesIn t₁ := by simpa [quiet.leases] using accepted
    obtain rfl : l.session = tooling := by
      simpa [granted] using List.mem_map_of_mem (f := Lease.session) held
    refine ⟨base, _, notes, o, answered, announced, ?_, rfl, ?_, reports, ?_, ?_, rfl⟩
    · simp [adopted, quiet.generations]
    · have due : base.setupDue = ({ base with
          cells := (base.cells.update code).submit.2
          owed := some n }).setupDue := by simp [setupDue, CellStore.submit]
      simp only [callsIn_append, calls₁, callsIn_emit, callsIn_nil, List.nil_append,
        List.append_nil, due]
      exact calls
    · simp [sent₁, sent₄, CellStore.submit]
    · rw [frame]

/-- Processing an accepted execution, in whatever state the session is and whatever answers
come. The session adopts the generations that it sees, submits the code as a cell, and builds
the cell with the session of the tooling that it was granted. Between busy and idle it sends
the input, notes, one reply and one broadcast; the last two agree on how the building ended. -/
theorem accepted_execution_reported (s : Session) (r : Request) (code : String)
    (typed : r.msgType = "execute_request") (content : r.content = .execute code)
    (answer : List Occurrence → (a : Action) → a.Answer) (l : Lease)
    (accepted : l ∈ leasesIn ((s.process r).follow answer []).1) :
    let t := ((s.process r).follow answer []).1
    let s' := ((s.process r).follow answer []).2.1
    ∃ (base : Session) (cell : Cell) (notes : List String) (o : Outcome Dict)
      (answered announced : Payload),
      base = (generationsIn t).foldl adopt s ∧
      cell.source = code ∧ cell.sequence = base.cells.current.sequence ∧
      Builds l.session base.setupDue cell (callsIn t) o ∧
      Reports cell.sequence o answered announced ∧
      sentIn t = .broadcast r (.status true) :: .broadcast r (.executeInput code cell.sequence) ::
        (notes.map (fun text => .broadcast r (.stream false text)) ++
          [.reply .shell r answered, .broadcast r announced, .broadcast r (.status false)]) ∧
      s'.cells.submitted = base.cells.submitted ++ [cell] ∧ s'.owed = none := by
  obtain ⟨t, ht, run⟩ := (s.process r).follow_runs answer []
  rw [List.nil_append] at ht
  rw [ht] at accepted ⊢
  generalize ((s.process r).follow answer []).2 = last at run ⊢
  obtain ⟨s', v⟩ := last
  have served : Service.find? .shell r.msgType = some .execute := by rw [typed]; rfl
  simp only [process, sync, bind_eq, perform, Job.bind, pure_eq, runs_act, served, enveloped,
    broadcast, serve, content] at run
  obtain ⟨g, _, rfl, _, u, rfl, run⟩ := run
  obtain ⟨t₁, ⟨s₁, w⟩, t₂, rfl, executed, closed⟩ := runs_bind.mp run
  simp only [runs_act, runs_done] at closed
  obtain ⟨_, _, rfl, rfl, h⟩ := closed
  cases h
  obtain ⟨base, cell, notes, o, answered, announced, adopted, rfl, built, reports, sent, cells,
    owed⟩ := execute_runs (l := l) executed (by simpa using accepted)
  refine ⟨base, _, notes, o, answered, announced, ?_, by simp, by simp, ?_, reports, ?_, ?_, owed⟩
  · simp [adopted]
  · simpa using built
  · simp [sent, Payload.progress]
  · simp [cells, CellStore.submit]

/-- A request to execute one letter. -/
def oneLetter : Request := ⟨[], ⟨"1", "", "", "", "execute_request", ""⟩, [], .execute "x"⟩

/-- Tooling that is running, compiles everything, and crashes when it has to run something. -/
def crashingTooling : List Occurrence → (a : Action) → a.Answer
  | _, .generation => 1
  | _, .lease => some ⟨1, 1⟩
  | _, .restart => .ok 1
  | _, .stop => .stopped
  | _, .call .start => .value 1
  | _, .call (.compile _ cell) => .value ⟨cell.sequence, "", none⟩
  | _, .call (.run _ _) => .crashed (some "boom")
  | _, .call (.complete _ _ _) => .value []
  | _, .call (.inspect _ _ _) => .value none
  | _, .call (.dispose _) => .value ()
  | _, .call (.kill _) => ()
  | _, .emit _ => ()
  | _, .leave => ()

/-- A crash while the first cell runs is reported as well. -/
theorem crashed_execution_reported :
    ∃ (cell : Cell) (o : Outcome Dict) (answered announced : Payload),
      Builds 1 (Session.new .standard).setupDue cell
        (callsIn (((Session.new .standard).process oneLetter).follow crashingTooling []).1) o ∧
      Reports cell.sequence o answered announced := by
  have accepted : (⟨1, 1⟩ : Lease) ∈
      leasesIn (((Session.new .standard).process oneLetter).follow crashingTooling []).1 := by
    decide +kernel
  have settled : (generationsIn
      (((Session.new .standard).process oneLetter).follow crashingTooling []).1) = [1] := by
    decide +kernel
  obtain ⟨base, cell, _, o, answered, announced, rfl, _, _, built, reports, _⟩ :=
    accepted_execution_reported (Session.new .standard) oneLetter "x" rfl rfl crashingTooling
      ⟨1, 1⟩ accepted
  rw [settled] at built
  exact ⟨cell, o, answered, announced, built, reports⟩

end Session

end NotebookKernel
