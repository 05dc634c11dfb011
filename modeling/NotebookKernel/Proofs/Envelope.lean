import NotebookKernel.Kernel.Service
import NotebookKernel.Proofs.Conversions
import NotebookKernel.Proofs.Job

/-!
# The envelope of a request

Whatever a handler is answered, it sends nothing but messages that belong to its request,
never a status, and only those of the shell call the tooling, about cells. Between busy and
idle there is therefore one block for each request that is served, and a request that came
off the wire ends well or with a crash.
-/

namespace NotebookKernel

open Json Job

/-- Is the call about cells? The others are about the session as a whole. -/
def ToolingCall.aboutCells : ToolingCall → Prop
  | .compile _ _ => True
  | .run _ _ => True
  | .complete _ _ _ => True
  | .inspect _ _ _ => True
  | .start => False
  | .dispose _ => False
  | .kill _ => False

def Payload.IsStatus (p : Payload) : Prop := ∃ busy, p = .status busy

/-- A message for the request, sent by the loop of the channel, that is not a status. -/
def Emission.Belongs (c : RequestChannel) (r : Request) : Emission → Prop
  | .reply d q p => d = c ∧ q = r ∧ ¬p.IsStatus
  | .broadcast q p => q = r ∧ ¬p.IsStatus

/-- What a handler may do for a request. Only the shell has cells to ask about. -/
def Handles (c : RequestChannel) (r : Request) : Action → Prop
  | .emit e => e.Belongs c r
  | .call t => c = .shell ∧ t.aboutCells
  | _ => True

/-- The content of the request is what the service reads. -/
def Service.Reads (content : RequestContent) : Service → Prop
  | .kernelInfo => True
  | .execute => ∃ code, content = .execute code
  | .complete => ∃ code cursor, content = .complete code cursor
  | .inspect => ∃ code cursor detail, content = .inspect code cursor detail
  | .history => True
  | .shutdown => ∃ restart, content = .shutdown restart

/-- A request ends well or because its handler crashed. -/
def Verdict.Survives (v : Verdict) : Prop := v = .ok () ∨ ∃ m, v = .error (.handlerPanicked m)

@[simp] theorem survives_ok : Verdict.Survives (.ok ()) := Or.inl rfl

@[simp] theorem survives_crash (m : String) : Verdict.Survives (.error (.handlerPanicked m)) :=
  Or.inr ⟨m, rfl⟩

namespace Session

variable {r : Request}

theorem lease_within {allowed : Action → Prop} (s : Session) (leases : allowed .lease)
    (looks : allowed .generation) : s.lease.Within allowed fun _ => True := by
  refine ⟨leases, fun x => ?_⟩
  cases x with
  | none => trivial
  | some l =>
    by_cases same : l.generation = s.generation
    · simp [Job.bind, same, Within]
    · simp [Job.bind, same, Within, sync, perform, looks]

/-- What building a cell takes: to tell of the progress, to compile and to run. -/
structure Building (r : Request) (allowed : Action → Prop) : Prop where
  notes : ∀ text, allowed (.emit (.broadcast r (.progress text)))
  compiles : ∀ c cell, allowed (.call (.compile c cell))
  runs : ∀ c artifact, allowed (.call (.run c artifact))

theorem handles_building (r : Request) : Building r (Handles .shell r) where
  notes text := ⟨rfl, by simp [Payload.IsStatus, Payload.progress]⟩
  compiles _ _ := ⟨rfl, trivial⟩
  runs _ _ := ⟨rfl, trivial⟩

/-- Building the setup cell changes nothing but whether it has been built. -/
theorem ensureSetup_within {allowed : Action → Prop} (s : Session) (tooling : SessionId)
    (h : Building r allowed) :
    (s.ensureSetup r tooling).Within allowed fun x =>
      x.1 = { s with setupBuilt := x.1.setupBuilt } := by
  unfold ensureSetup
  split
  · rfl
  · split
    · rfl
    · refine ⟨h.notes _, fun _ => ⟨h.compiles _ _, fun x => ?_⟩⟩
      cases x with
      | failed e => rfl
      | crashed m => rfl
      | value a => exact ⟨h.notes _, fun _ => rfl⟩

theorem compileAndRun_within {allowed : Action → Prop} (tooling : SessionId) (cell : Cell)
    (h : Building r allowed) : (compileAndRun r tooling cell).Within allowed fun _ => True := by
  unfold compileAndRun
  split
  · trivial
  · refine ⟨h.notes _, fun _ => ⟨h.compiles _ _, fun x => ?_⟩⟩
    cases x with
    | failed e => trivial
    | crashed m => trivial
    | value a => exact ⟨h.notes _, fun _ => ⟨h.runs _ _, fun _ => trivial⟩⟩

theorem build_within {allowed : Action → Prop} (s : Session) (tooling : SessionId) (cell : Cell)
    (h : Building r allowed) :
    (s.build r tooling cell).Within allowed fun x =>
      x.1 = { s with setupBuilt := x.1.setupBuilt } := by
  refine (ensureSetup_within s tooling h).bind fun x frame => ?_
  obtain ⟨t, o⟩ := x
  cases o with
  | failed e => exact frame
  | crashed m => exact frame
  | value _ => exact (compileAndRun_within tooling cell h).bind fun _ _ => frame

theorem reply_within {p : Payload} (plain : ¬p.IsStatus) :
    (reply r p).Within (Handles .shell r) fun _ => True :=
  ⟨⟨rfl, rfl, plain⟩, fun _ => trivial⟩

theorem reportFailure_within (n : Int) (e : ErrorContent) :
    (reportFailure r n e).Within (Handles .shell r) fun _ => True :=
  (reply_within (by simp [Payload.IsStatus])).bind fun _ _ =>
    ⟨⟨rfl, by simp [Payload.IsStatus]⟩, fun _ => trivial⟩

/-- Replying is the last thing done for a request that ends well. -/
theorem replied_within {p : Payload} (s : Session) (plain : ¬p.IsStatus) :
    ((reply r p).bind fun _ => .done (s, .ok ())).Within (Handles .shell r)
      fun x : Session × Verdict => x.2.Survives :=
  (reply_within plain).bind fun _ _ => survives_ok

theorem execute_within (s : Session) (code : String) :
    (s.execute r code).Within (Handles .shell r) fun x => x.2.Survives := by
  refine (s.lease_within trivial trivial).bind fun x _ => ?_
  obtain ⟨s, tooling⟩ := x
  cases tooling with
  | none => exact replied_within s (by simp [Payload.IsStatus])
  | some tooling =>
    refine ⟨⟨rfl, by simp [Payload.IsStatus]⟩, fun _ => ?_⟩
    refine (build_within _ tooling _ (handles_building r)).bind fun x _ => ?_
    obtain ⟨s, o⟩ := x
    cases o with
    | value data =>
      refine (reply_within (by simp [Payload.IsStatus])).bind fun _ _ => ?_
      exact ⟨⟨rfl, by simp [Payload.IsStatus]⟩, fun _ => survives_ok⟩
    | failed e => exact (reportFailure_within _ _).bind fun _ _ => survives_ok
    | crashed m =>
      have abandoned (e : KernelError) :
          (s.abandon r e).Within (Handles .shell r) fun _ => True := by
        unfold abandon
        cases s.owed with
        | none => trivial
        | some n => exact (reportFailure_within _ _).bind fun _ _ => trivial
      exact (abandoned _).bind fun _ _ => survives_crash _

/-! ### Questions -/

/-- The session, but for the text that is being edited. -/
inductive Edited (s : Session) : Session → Prop
  | same : Edited s s
  | update (text : String) : Edited s { s with cells := s.cells.update text }

/-- What is left of a question once it has been answered: one reply, or none after a crash. -/
inductive Tells (r : Request) (s : Session) : Option Payload → Job (Session × Verdict) → Prop
  | replies (p : Payload) : Tells r s (some p) ((reply r p).bind fun _ => done (s, .ok ()))
  | crashes (m : String) : Tells r s none (done (s, .error (.handlerPanicked m)))

/-- A question about a text: the call for a session and a cell, what is replied to its answer, and
what is replied if there is no session to ask. -/
structure Question where
  code : String
  call : SessionId → Cell → ToolingCall
  told : (l : SessionId) → (cell : Cell) → (call l cell).Answer → Option Payload
  refusal : Payload

/-- The question is refused if there is no live session. Otherwise it is one call about the current
cell with its new text, and what the answer comes to is told. -/
def Asks (r : Request) (q : Question) (ask : Session → Job (Session × Verdict)) : Prop :=
  ∃ j : Session × Option SessionId → Job (Session × Verdict),
    (∀ s, ask s = s.lease.bind j) ∧ (∀ s, Tells r s (some q.refusal) (j (s, none))) ∧
    ∀ s l, ∃ rest,
      j (s, some l) = .act (.call (q.call l (s.cells.update q.code).current)) rest ∧
      ∀ x, Tells r { s with cells := s.cells.update q.code } (q.told l _ x) (rest x)

/-- The reply to a question for completions; none if the tooling crashes. -/
def completion? (code : String) (cursor : Nat) : Outcome (List String) → Option Payload
  | .value candidates =>
      let span := TokenSpan.scan code.toList cursor
      some (.completeReply (.ok candidates span.start span.stop []))
  | .failed _ => some (.completeReply (.ok [] cursor cursor []))
  | .crashed _ => none

/-- Which completions are there at a cursor? -/
def Question.completion (code : String) (cursor : Nat) : Question where
  code := code
  call l cell := .complete l cell (.scan code.toList cursor)
  told _ _ := completion? code cursor
  refusal := .completeReply (.error (failure .notRunning))

theorem complete_asks (r : Request) (code : String) (cursor : Nat) :
    Asks r (.completion code cursor) fun s => s.complete r code cursor := by
  refine ⟨_, fun _ => rfl, fun _ => .replies _, fun _ _ => ⟨_, rfl, fun x => ?_⟩⟩
  cases x with
  | value candidates => exact .replies _
  | failed e => exact .replies _
  | crashed m => exact .crashes _

theorem completion_ok {code : String} {cursor : Nat} {x : Outcome (List String)} {p : Payload}
    (told : p ∈ completion? code cursor x) :
    ∃ candidates first last, p = .completeReply (.ok candidates first last []) := by
  cases x with
  | value candidates => exact ⟨_, _, _, (Option.some.inj told).symm⟩
  | failed e => exact ⟨_, _, _, (Option.some.inj told).symm⟩
  | crashed m => cases told

/-- The reply to a question about a token; none if the tooling crashes. -/
def inspection? : Outcome (Option String) → Option Payload
  | .value (some detail) => some (.inspectReply (inspection detail))
  | .value none => some (.inspectReply .notFound)
  | .failed _ => some (.inspectReply .notFound)
  | .crashed _ => none

/-- What is known about the token at a cursor? -/
def Question.inspection (code : String) (cursor : Nat) : Question where
  code := code
  call l cell := .inspect l cell (.scan code.toList cursor)
  told _ _ := inspection?
  refusal := .inspectReply (.error (failure .notRunning))

theorem inspect_asks (r : Request) (code : String) (cursor : Nat) :
    Asks r (.inspection code cursor) fun s => s.inspect r code cursor := by
  refine ⟨_, fun _ => rfl, fun _ => .replies _, fun _ _ => ⟨_, rfl, fun x => ?_⟩⟩
  cases x with
  | value found =>
    cases found with
    | some detail => exact .replies _
    | none => exact .replies _
  | failed e => exact .replies _
  | crashed m => exact .crashes _

theorem inspection_ok {x : Outcome (Option String)} {p : Payload} (told : p ∈ inspection? x) :
    (∃ detail, p = .inspectReply (inspection detail)) ∨ p = .inspectReply .notFound := by
  cases x with
  | value found =>
    cases found with
    | some detail => exact .inl ⟨detail, (Option.some.inj told).symm⟩
    | none => exact .inr (Option.some.inj told).symm
  | failed e => exact .inr (Option.some.inj told).symm
  | crashed m => cases told

theorem Tells.within {s : Session} {p : Option Payload} {j : Job (Session × Verdict)}
    {allowed : Action → Prop} (tells : Tells r s p j)
    (replies : ∀ q ∈ p, allowed (.emit (.reply .shell r q))) :
    j.Within allowed fun x => x.1 = s ∧ x.2.Survives := by
  cases tells with
  | replies q => exact ⟨replies q rfl, fun _ => ⟨rfl, survives_ok⟩⟩
  | crashes m => exact ⟨rfl, survives_crash m⟩

section

variable {q : Question} {ask : Session → Job (Session × Verdict)}

/-- After it has looked for a live session, a question edits the session at most. -/
theorem Asks.edits (asks : Asks r q ask) (allowed : Action → Prop)
    (calls : ∀ l cell, allowed (.call (q.call l cell)))
    (refuses : allowed (.emit (.reply .shell r q.refusal)))
    (replies : ∀ l cell x, ∀ p ∈ q.told l cell x, allowed (.emit (.reply .shell r p))) :
    ∃ j : Session × Option SessionId → Job (Session × Verdict),
      (∀ s, ask s = s.lease.bind j) ∧
      ∀ x, (j x).Within allowed fun y => x.1.Edited y.1 ∧ y.2.Survives := by
  obtain ⟨j, same, none, some⟩ := asks
  refine ⟨j, same, fun x => ?_⟩
  obtain ⟨s, tooling⟩ := x
  cases tooling with
  | none =>
    refine ((none s).within fun p same => Option.some.inj same ▸ refuses).mono (fun _ => id) ?_
    rintro ⟨_, v⟩ ⟨rfl, survives⟩
    exact ⟨.same, survives⟩
  | some l =>
    obtain ⟨rest, called, tells⟩ := some s l
    rw [called]
    refine ⟨calls l _, fun y => ?_⟩
    refine ((tells y).within (replies l _ y)).mono (fun _ => id) ?_
    rintro ⟨_, v⟩ ⟨rfl, survives⟩
    exact ⟨.update q.code, survives⟩

theorem Asks.within {allowed : Action → Prop} (asks : Asks r q ask) (leases : allowed .lease)
    (looks : allowed .generation) (calls : ∀ l cell, allowed (.call (q.call l cell)))
    (refuses : allowed (.emit (.reply .shell r q.refusal)))
    (replies : ∀ l cell x, ∀ p ∈ q.told l cell x, allowed (.emit (.reply .shell r p)))
    (s : Session) : (ask s).Within allowed fun x => x.2.Survives := by
  obtain ⟨j, same, rest⟩ := asks.edits allowed calls refuses replies
  rw [same]
  exact (s.lease_within leases looks).bind fun x _ => (rest x).mono (fun _ => id) fun _ => And.right

end

theorem complete_within (s : Session) (code : String) (cursor : Nat) :
    (s.complete r code cursor).Within (Handles .shell r) fun x => x.2.Survives := by
  refine (complete_asks r code cursor).within trivial trivial (fun _ _ => ⟨rfl, trivial⟩)
    ⟨rfl, rfl, by simp [Question.completion, Payload.IsStatus]⟩
    (fun _ _ x p told => ⟨rfl, rfl, ?_⟩) s
  obtain ⟨_, _, _, rfl⟩ := completion_ok told
  simp [Payload.IsStatus]

theorem inspect_within (s : Session) (code : String) (cursor : Nat) :
    (s.inspect r code cursor).Within (Handles .shell r) fun x => x.2.Survives := by
  refine (inspect_asks r code cursor).within trivial trivial (fun _ _ => ⟨rfl, trivial⟩)
    ⟨rfl, rfl, by simp [Question.inspection, Payload.IsStatus]⟩
    (fun _ _ x p told => ⟨rfl, rfl, ?_⟩) s
  obtain ⟨_, rfl⟩ | rfl := inspection_ok told
  · simp [Payload.IsStatus]
  · simp [Payload.IsStatus]

end Session

theorem restartTooling_within {α : Type} {c : RequestChannel} {r : Request} {prepare : Job α}
    (h : prepare.Within (Handles c r) fun _ => True) :
    (restartTooling c r prepare).Within (Handles c r) fun _ => True := by
  refine ⟨trivial, fun o => h.bind fun _ _ => ?_⟩
  cases o with
  | ok g => exact ⟨⟨rfl, rfl, by simp [Payload.IsStatus, Payload.shutdownOk]⟩, fun _ => trivial⟩
  | error e => exact ⟨⟨rfl, rfl, by simp [Payload.IsStatus]⟩, fun _ => trivial⟩

theorem shutDown_within (c : RequestChannel) (r : Request) :
    (shutDown c r).Within (Handles c r) Verdict.Survives := by
  refine ⟨trivial, fun o => ?_⟩
  cases o with
  | crashed m => exact survives_crash _
  | stopped =>
    exact ⟨⟨rfl, rfl, by simp [Payload.IsStatus, Payload.shutdownOk]⟩,
      fun _ => ⟨trivial, fun _ => survives_ok⟩⟩

/-- Handlers of the shell keep to their request. -/
theorem Session.serve_within (s : Session) (r : Request) (service : Service) :
    (s.serve r service).Within (Handles .shell r)
      fun x => service.Reads r.content → x.2.Survives := by
  cases service with
  | kernelInfo =>
    exact (replied_within s (by simp [Payload.IsStatus])).mono (fun _ => id) fun _ h _ => h
  | history =>
    exact (replied_within s (by simp [Payload.IsStatus, Payload.emptyHistory])).mono
      (fun _ => id) fun _ h _ => h
  | execute =>
    cases content : r.content with
    | execute code =>
      simp only [serve, content]
      exact (s.execute_within code).mono (fun _ => id) fun _ h _ => h
    | _ => simp [serve, content, Within, Service.Reads]
  | complete =>
    cases content : r.content with
    | complete code cursor =>
      simp only [serve, content]
      exact (s.complete_within code cursor).mono (fun _ => id) fun _ h _ => h
    | _ => simp [serve, content, Within, Service.Reads]
  | inspect =>
    cases content : r.content with
    | inspect code cursor detail =>
      simp only [serve, content]
      exact (s.inspect_within code cursor).mono (fun _ => id) fun _ h _ => h
    | _ => simp [serve, content, Within, Service.Reads]
  | shutdown =>
    cases content : r.content with
    | shutdown again =>
      cases again with
      | true =>
        simp only [serve, content]
        have looked : s.sync.Within (Handles .shell r) fun _ => True := ⟨trivial, fun _ => trivial⟩
        exact (restartTooling_within looked).bind fun _ _ _ => survives_ok
      | false =>
        simp only [serve, content]
        exact (shutDown_within .shell r).bind fun _ h _ => h
    | _ => simp [serve, content, Within, Service.Reads]

/-- Handlers of the control channel keep to their request. -/
theorem Control.serve_within (config : KernelConfig) (r : Request) (service : Service) :
    (Control.serve config r service).Within (Handles .control r)
      fun v => service.Reads r.content → v.Survives := by
  cases service with
  | kernelInfo =>
    exact ⟨⟨rfl, rfl, by simp [Payload.IsStatus]⟩, fun _ _ => survives_ok⟩
  | shutdown =>
    cases content : r.content with
    | shutdown again =>
      cases again with
      | true =>
        simp only [serve, content]
        have nothing : (done ()).Within (Handles .control r) fun _ => True := trivial
        exact (restartTooling_within nothing).bind fun _ _ _ => survives_ok
      | false =>
        simp only [serve, content]
        exact (shutDown_within .control r).mono (fun _ => id) fun _ h _ => h
    | _ => simp [serve, content, Within, Service.Reads]
  | _ => exact fun _ => survives_ok

theorem Service.msgType_of_find {c : RequestChannel} {msgType : String} {service : Service}
    (routed : find? c msgType = some service) : msgType = service.msgType := by
  have same := List.find?_some routed
  exact (beq_iff_eq.mp same).symm

/-- Content of the type that a service is for is what the service reads. -/
theorem Service.reads_of_ofValue {service : Service} {v : Value} {content : RequestContent}
    (h : RequestContent.ofValue service.msgType v = .ok content) : service.Reads content := by
  cases service with
  | kernelInfo => trivial
  | history => trivial
  | execute =>
    obtain ⟨⟨code, _⟩, -, rfl⟩ := Json.of_map_ok h
    exact ⟨code, rfl⟩
  | complete =>
    obtain ⟨⟨code, cursor, _⟩, -, rfl⟩ := Json.of_map_ok h
    exact ⟨code, cursor, rfl⟩
  | inspect =>
    obtain ⟨⟨code, cursor, detail, _⟩, -, rfl⟩ := Json.of_map_ok h
    exact ⟨code, cursor, detail, rfl⟩
  | shutdown =>
    obtain ⟨⟨restart, _⟩, -, rfl⟩ := Json.of_map_ok h
    exact ⟨restart, rfl⟩

/-- A request that came off the wire holds what the service for its type reads. -/
theorem Request.reads_of_ofMessage {m : Message} {r : Request} {c : RequestChannel}
    {service : Service} (typed : Request.ofMessage m = .ok r)
    (routed : Service.find? c r.msgType = some service) : service.Reads r.content := by
  simp only [ofMessage, RequestContent.decode] at typed
  cases read : RequestContent.ofValue m.header.msgType m.content with
  | error e =>
    rw [read] at typed
    cases typed
  | ok content =>
    rw [read] at typed
    cases typed
    rw [show m.header.msgType = service.msgType from Service.msgType_of_find routed] at read
    exact Service.reads_of_ofValue read

/-- What a loop did for a request. -/
structure Handled where
  request : Request
  sent : List Emission
  verdict : Verdict

/-- A request that is not routed leaves no trace. One that is routed is answered between the
status busy and the status idle, with no other status in between. -/
def Handled.Enveloped (c : RequestChannel) (h : Handled) : Prop :=
  match Service.find? c h.request.msgType with
  | none => h.sent = [] ∧ h.verdict = .ok ()
  | some _ =>
      h.verdict.Survives ∧ ∃ body, (∀ e ∈ body, e.Belongs c h.request) ∧
        h.sent = .broadcast h.request (.status true) ::
          (body ++ [.broadcast h.request (.status false)])

/-- Every trace of a job in its envelope is one of the job between busy and idle. -/
theorem enveloped_trace {α : Type} {r : Request} {job : Job α} {t : List Occurrence} {a : α}
    (run : (enveloped r job).Runs t a) :
    ∃ u, job.Runs u a ∧ t = ⟨.emit (.broadcast r (.status true)), ()⟩ ::
      (u ++ [⟨.emit (.broadcast r (.status false)), ()⟩]) := by
  simp only [enveloped, bind_eq, broadcast, perform, Job.bind, pure_eq, runs_act] at run
  obtain ⟨_, t₁, rfl, rest⟩ := run
  obtain ⟨u, b, v, rfl, done, closing⟩ := runs_bind.mp rest
  simp only [runs_act, runs_done] at closing
  obtain ⟨_, _, rfl, rfl, rfl⟩ := closing
  exact ⟨u, done, rfl⟩

/-- What is done in the envelope is sent between busy and idle. -/
theorem enveloped_runs {α : Type} {r : Request} {job : Job α} {t : List Occurrence} {a : α}
    (run : (enveloped r job).Runs t a) :
    ∃ u, job.Runs u a ∧ sentIn t =
      .broadcast r (.status true) :: (sentIn u ++ [.broadcast r (.status false)]) := by
  obtain ⟨u, done, rfl⟩ := enveloped_trace run
  exact ⟨u, done, by simp⟩

theorem sentIn_belongs {c : RequestChannel} {r : Request} {t : List Occurrence}
    (h : ∀ o ∈ t, Handles c r o.action) : ∀ e ∈ sentIn t, e.Belongs c r := by
  intro e he
  obtain ⟨⟨a, x⟩, ho, same⟩ := List.mem_filterMap.mp he
  cases a with
  | emit e' => cases same; exact h _ ho
  | _ => cases same

end NotebookKernel
