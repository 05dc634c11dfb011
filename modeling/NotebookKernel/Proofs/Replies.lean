import NotebookKernel.Proofs.Envelope
import NotebookKernel.Proofs.Execution
import NotebookKernel.Proofs.Schedule
import NotebookKernel.Tooling.Scripted

/-!
# The reply to a request

A request that is served is replied to once, on the channel on which it came and with the type
that answers its own. The execution of a cell is replied to even if the tooling crashes. A
completion or an inspection that crashes, and a shutdown that crashes while the session is disposed
of, end without a reply.
-/

namespace NotebookKernel

open Json Job

def Emission.isReply : Emission → Bool
  | .reply _ _ _ => true
  | .broadcast _ _ => false

/-- The replies in a trace, the oldest first. -/
def repliesIn (t : List Occurrence) : List Emission := (sentIn t).filter Emission.isReply

@[simp] theorem repliesIn_nil : repliesIn [] = [] := rfl

@[simp] theorem repliesIn_append (t u : List Occurrence) :
    repliesIn (t ++ u) = repliesIn t ++ repliesIn u := by
  simp [repliesIn]

/-- A crash that ends a handler before it has replied. -/
def Occurrence.Fatal : Occurrence → Prop
  | ⟨.call (.complete _ _ _), x⟩ => ∃ m, x = .crashed m
  | ⟨.call (.inspect _ _ _), x⟩ => ∃ m, x = .crashed m
  | ⟨.stop, x⟩ => ∃ m, x = .crashed m
  | _ => False

instance (o : Occurrence) : Decidable o.Fatal :=
  match o with
  | ⟨.call (.complete _ _ _), .crashed m⟩ => .isTrue ⟨m, rfl⟩
  | ⟨.call (.complete _ _ _), .value _⟩ => .isFalse nofun
  | ⟨.call (.complete _ _ _), .failed _⟩ => .isFalse nofun
  | ⟨.call (.inspect _ _ _), .crashed m⟩ => .isTrue ⟨m, rfl⟩
  | ⟨.call (.inspect _ _ _), .value _⟩ => .isFalse nofun
  | ⟨.call (.inspect _ _ _), .failed _⟩ => .isFalse nofun
  | ⟨.stop, .crashed m⟩ => .isTrue ⟨m, rfl⟩
  | ⟨.stop, .stopped⟩ => .isFalse nofun
  | ⟨.call .start, _⟩ | ⟨.call (.compile _ _), _⟩ | ⟨.call (.run _ _), _⟩
  | ⟨.call (.dispose _), _⟩ | ⟨.call (.kill _), _⟩ | ⟨.generation, _⟩ | ⟨.lease, _⟩
  | ⟨.restart, _⟩ | ⟨.emit _, _⟩ | ⟨.leave, _⟩ => .isFalse id

/-- What is no reply, and not fatal whatever the answer. -/
def Action.Mute : Action → Prop
  | .emit e => e.isReply = false
  | .call (.complete _ _ _) => False
  | .call (.inspect _ _ _) => False
  | .stop => False
  | _ => True

theorem Action.Mute.not_fatal {a : Action} (mute : a.Mute) (x : a.Answer) :
    ¬(⟨a, x⟩ : Occurrence).Fatal := by
  cases a with
  | stop => exact mute.elim
  | call c =>
    cases c with
    | complete _ _ _ => exact mute.elim
    | inspect _ _ _ => exact mute.elim
    | _ => exact id
  | _ => exact id

theorem repliesIn_cons (o : Occurrence) (t : List Occurrence)
    (mute : ∀ e, o.action = .emit e → e.isReply = false) :
    repliesIn (o :: t) = repliesIn t := by
  obtain ⟨a, x⟩ := o
  cases a with
  | emit e => simp [repliesIn, mute e rfl]
  | _ => rfl

/-- The type of the replies to the requests that are served. -/
def Service.replyType : Service → String
  | kernelInfo => "kernel_info_reply"
  | execute => "execute_reply"
  | complete => "complete_reply"
  | inspect => "inspect_reply"
  | history => "history_reply"
  | shutdown => "shutdown_reply"

/-- Nothing happens that is fatal, and nothing is replied. -/
structure Uneventful (t : List Occurrence) : Prop where
  sound : ∀ o ∈ t, ¬o.Fatal
  unreplied : repliesIn t = []

/-- How a request fares: it is replied to once, or never because of a fatal crash. -/
inductive Fares (c : RequestChannel) (r : Request) (fine : Payload → Prop)
    (t : List Occurrence) : Prop where
  | answered (p : Payload) (fits : fine p) (replies : repliesIn t = [.reply c r p])
      (sound : ∀ o ∈ t, ¬o.Fatal)
  | lost (o : Occurrence) (happened : o ∈ t) (fatal : o.Fatal) (replies : repliesIn t = [])

theorem Fares.mono {c : RequestChannel} {r : Request} {fine good : Payload → Prop}
    {t : List Occurrence} (h : Fares c r fine t) (weaker : ∀ p, fine p → good p) :
    Fares c r good t := by
  cases h with
  | answered p fits replies sound => exact .answered p (weaker p fits) replies sound
  | lost o happened fatal replies => exact .lost o happened fatal replies

section Fares

variable {c : RequestChannel} {r : Request} {fine : Payload → Prop} {t u : List Occurrence}

theorem Fares.after (h : Fares c r fine t) (before : Uneventful u) : Fares c r fine (u ++ t) := by
  cases h with
  | answered p fits replies sound =>
    refine .answered p fits ?_ fun o ho => ?_
    · rw [repliesIn_append, before.unreplied, replies, List.nil_append]
    · exact (List.mem_append.mp ho).elim (before.sound o) (sound o)
  | lost o happened fatal replies =>
    refine .lost o (List.mem_append_right u happened) fatal ?_
    rw [repliesIn_append, before.unreplied, replies, List.nil_append]

theorem Fares.before (h : Fares c r fine t) (after : Uneventful u) : Fares c r fine (t ++ u) := by
  cases h with
  | answered p fits replies sound =>
    refine .answered p fits ?_ fun o ho => ?_
    · rw [repliesIn_append, after.unreplied, replies, List.append_nil]
    · exact (List.mem_append.mp ho).elim (sound o) (after.sound o)
  | lost o happened fatal replies =>
    refine .lost o (List.mem_append_left u happened) fatal ?_
    rw [repliesIn_append, after.unreplied, replies, List.append_nil]

end Fares

namespace Job

variable {α β : Type} {c : RequestChannel} {r : Request} {fine : Payload → Prop}

theorem uneventful_of_mute {t : List Occurrence} (mute : ∀ o ∈ t, o.action.Mute) :
    Uneventful t := by
  induction t with
  | nil => exact ⟨by simp, rfl⟩
  | cons o t ih =>
    obtain ⟨first, rest⟩ := List.forall_mem_cons.mp mute
    obtain ⟨sound, unreplied⟩ := ih rest
    refine ⟨List.forall_mem_cons.mpr ⟨first.not_fatal o.answer, sound⟩, ?_⟩
    rw [repliesIn_cons o t fun e same => ?_]
    · exact unreplied
    · rw [same] at first
      exact first

theorem Runs.uneventful {j : Job α} {good : α → Prop} {t : List Occurrence} {a : α}
    (run : j.Runs t a) (h : j.Within Action.Mute good) : Uneventful t :=
  uneventful_of_mute (Goes.within run h).1

/-- However it is answered, the job replies once, unless something fatal happens before. -/
inductive Replies (c : RequestChannel) (r : Request) (fine : Payload → Prop) : Job α → Prop
  | now {p : Payload} {next : Unit → Job α} (fits : fine p)
      (rest : (next ()).Within Action.Mute fun _ => True) :
      Replies c r fine (.act (.emit (.reply c r p)) next)
  | later {a : Action} {next : a.Answer → Job α} (mute : a.Mute)
      (rest : ∀ x, Replies c r fine (next x)) : Replies c r fine (.act a next)
  | risking {a : Action} {next : a.Answer → Job α} (quiet : ∀ e, a ≠ .emit e)
      (lost : ∀ x, (⟨a, x⟩ : Occurrence).Fatal → (next x).Within Action.Mute fun _ => True)
      (rest : ∀ x, ¬(⟨a, x⟩ : Occurrence).Fatal → Replies c r fine (next x)) :
      Replies c r fine (.act a next)

theorem Replies.fares {j : Job α} (h : j.Replies c r fine) {t : List Occurrence} {a : α}
    (run : j.Runs t a) : Fares c r fine t := by
  induction h generalizing t with
  | @now p next fits rest =>
    obtain ⟨_, t, rfl, goes⟩ := runs_act.mp run
    obtain ⟨sound, unreplied⟩ := goes.uneventful rest
    refine .answered p fits ?_ (List.forall_mem_cons.mpr ⟨id, sound⟩)
    rw [repliesIn, sentIn_emit, List.filter_cons_of_pos rfl]
    exact congrArg _ unreplied
  | @later a next mute rest ih =>
    obtain ⟨x, t, rfl, goes⟩ := runs_act.mp run
    have first : Uneventful [⟨a, x⟩] := uneventful_of_mute (by simpa using mute)
    exact (ih x goes).after first
  | @risking a next quiet lost rest ih =>
    obtain ⟨x, t, rfl, goes⟩ := runs_act.mp run
    have skip : repliesIn (⟨a, x⟩ :: t) = repliesIn t :=
      repliesIn_cons _ _ fun e same => (quiet e same).elim
    by_cases fatal : (⟨a, x⟩ : Occurrence).Fatal
    · have rest := goes.uneventful (lost x fatal)
      exact .lost ⟨a, x⟩ List.mem_cons_self fatal (skip.trans rest.unreplied)
    · have first : Uneventful [⟨a, x⟩] :=
        ⟨by simpa using fatal, repliesIn_cons _ _ fun e same => (quiet e same).elim⟩
      exact (ih x fatal goes).after first

theorem Replies.bind {j : Job α} {f : α → Job β} (h : j.Replies c r fine)
    (sequel : ∀ a, (f a).Within Action.Mute fun _ => True) : (j.bind f).Replies c r fine := by
  induction h with
  | now fits rest => exact .now fits (rest.bind fun a _ => sequel a)
  | later mute _ ih => exact .later mute ih
  | risking quiet lost _ ih =>
    exact .risking quiet (fun x fatal => (lost x fatal).bind fun a _ => sequel a) ih

theorem Within.replies {good : α → Prop} {j : Job α} {f : α → Job β}
    (h : j.Within Action.Mute good) (sequel : ∀ a, good a → (f a).Replies c r fine) :
    (j.bind f).Replies c r fine := by
  induction j with
  | done a => exact sequel a h
  | act a next ih => exact .later h.1 fun x => ih x (h.2 x)

end Job

/-- The payload reports success. -/
def Payload.IsOk (p : Payload) : Prop := p.content.get? "status" = some (.string "ok")

theorem isOk_complete (candidates : List String) (first last : Nat) (metadata : Dict) :
    (Payload.completeReply (.ok candidates first last metadata)).IsOk := by
  simp [Payload.IsOk, Payload.content, CompleteReply.content, CompleteReply.okFields,
    Fields.toEntries, Reply.statusEntry, Value.object, Value.get?, Dict.ofList, Dict.get?_insert]

theorem isOk_inspect (found : Bool) (data metadata : Dict) :
    (Payload.inspectReply (.ok found data metadata)).IsOk := by
  simp [Payload.IsOk, Payload.content, InspectReply.content, InspectReply.okFields,
    Fields.toEntries, Reply.statusEntry, Value.object, Value.get?, Dict.ofList, Dict.get?_insert]

/-- Does the service answer questions about a draft? -/
def Service.OfDraft (s : Service) : Prop := s = .complete ∨ s = .inspect

/-- The payload answers a request of the service. About a draft there is always something to say
while the kernel is running. -/
structure Payload.Answers (service : Service) (running : Prop) (p : Payload) : Prop where
  typed : p.msgType = service.replyType
  succeeds : service.OfDraft → running → p.IsOk

theorem Payload.Answers.of_type {service : Service} {running : Prop} {p : Payload}
    (typed : p.msgType = service.replyType) (other : ¬service.OfDraft) :
    p.Answers service running :=
  ⟨typed, fun draft => (other draft).elim⟩

namespace Session

variable {r : Request}

theorem mute_building (r : Request) : Building r Action.Mute where
  notes _ := rfl
  compiles _ _ := trivial
  runs _ _ := trivial

theorem sync_mute (s : Session) : s.sync.Within Action.Mute fun _ => True :=
  ⟨trivial, fun _ => trivial⟩

theorem lease_mute (s : Session) : s.lease.Within Action.Mute fun _ => True :=
  s.lease_within trivial trivial

theorem replies_reply {α : Type} {fine : Payload → Prop} {p : Payload} (fits : fine p) (a : α) :
    ((reply r p).bind fun _ => .done a).Replies .shell r fine :=
  .now fits trivial

theorem replies_reportFailure {α : Type} {fine : Payload → Prop} {n : Int} {e : ErrorContent}
    (fits : fine (.executeReply (.error n e))) (a : α) :
    ((reportFailure r n e).bind fun _ => .done a).Replies .shell r fine :=
  .now fits ⟨rfl, fun _ => trivial⟩

/-- The execution of a cell is replied to however it ends. -/
theorem execute_replies (s : Session) (code : String) {fine : Payload → Prop}
    (fits : ∀ x, fine (.executeReply x)) : (s.execute r code).Replies .shell r fine := by
  refine (lease_mute s).replies fun x _ => ?_
  obtain ⟨s, tooling⟩ := x
  cases tooling with
  | none => exact replies_reply (fits _) _
  | some tooling =>
    refine .later rfl fun _ => ?_
    refine (build_within _ tooling _ (mute_building r)).replies fun x frame => ?_
    obtain ⟨t, o⟩ := x
    cases o with
    | value data => exact .now (fits _) ⟨rfl, fun _ => trivial⟩
    | failed e => exact replies_reportFailure (fits _) _
    | crashed m =>
      -- the reply is still owed, for building a cell does not settle it
      have owed : t.owed = some (s.cells.update code).current.sequence := by
        rw [show t = _ from frame]
      refine Replies.bind ?_ fun _ => trivial
      simp only [abandon, owed]
      exact replies_reportFailure (fits _) _

/-- What is asked of the live session about a draft. It is refused if there is none. -/
theorem leased_fares {α : Type} {s : Session} {f : Session × Option SessionId → Job α}
    {fine : Payload → Prop} {t : List Occurrence} {a : α} (run : (s.lease.bind f).Runs t a)
    (refused : ∀ s', ∃ p x, fine p ∧ f (s', none) = (reply r p).bind fun _ => .done x)
    (accepted : ∀ s' c, (f (s', some c)).Replies .shell r fun p => fine p ∧ p.IsOk) :
    Fares .shell r (fun p => fine p ∧ (leasesIn t ≠ [] → p.IsOk)) t := by
  obtain ⟨u, ⟨s', tooling⟩, v, rfl, leasing, rest⟩ := runs_bind.mp run
  have before : Uneventful u := leasing.uneventful (lease_mute s)
  obtain ⟨_, _, _, granted⟩ := lease_runs leasing
  cases tooling with
  | none =>
    obtain ⟨p, x, fits, told⟩ := refused s'
    rw [told] at rest
    have fares := (replies_reply fits x).fares rest
    have unleased : leasesIn (u ++ v) = [] := by
      simp only [reply, Job.reply, perform, Job.bind, runs_act, runs_done] at rest
      obtain ⟨_, _, rfl, rfl, _⟩ := rest
      simpa using granted
    exact (fares.after before).mono fun p fits => ⟨fits, fun running => (running unleased).elim⟩
  | some c =>
    have fares := (accepted s' c).fares rest
    exact (fares.after before).mono fun p fits => ⟨fits.1, fun _ => fits.2⟩

theorem complete_fares {s : Session} {code : String} {cursor : Nat} {t : List Occurrence}
    {x : Session × Verdict} (run : (s.complete r code cursor).Runs t x) :
    Fares .shell r (fun p => p.msgType = "complete_reply" ∧ (leasesIn t ≠ [] → p.IsOk)) t := by
  refine leased_fares run (fun s' => ⟨_, _, rfl, rfl⟩) fun s' c => ?_
  refine .risking (fun _ => nofun) (fun x fatal => ?_) fun x sound => ?_
  · obtain ⟨m, rfl⟩ := fatal
    trivial
  · cases x with
    | value candidates => exact replies_reply ⟨rfl, isOk_complete _ _ _ _⟩ _
    | failed e => exact replies_reply ⟨rfl, isOk_complete _ _ _ _⟩ _
    | crashed m => exact (sound ⟨m, rfl⟩).elim

theorem inspect_fares {s : Session} {code : String} {cursor : Nat} {t : List Occurrence}
    {x : Session × Verdict} (run : (s.inspect r code cursor).Runs t x) :
    Fares .shell r (fun p => p.msgType = "inspect_reply" ∧ (leasesIn t ≠ [] → p.IsOk)) t := by
  refine leased_fares run (fun s' => ⟨_, _, rfl, rfl⟩) fun s' c => ?_
  refine .risking (fun _ => nofun) (fun x fatal => ?_) fun x sound => ?_
  · obtain ⟨m, rfl⟩ := fatal
    trivial
  · cases x with
    | value detail =>
      cases detail with
      | some detail => exact replies_reply ⟨rfl, isOk_inspect _ _ _⟩ _
      | none => exact replies_reply ⟨rfl, isOk_inspect _ _ _⟩ _
    | failed e => exact replies_reply ⟨rfl, isOk_inspect _ _ _⟩ _
    | crashed m => exact (sound ⟨m, rfl⟩).elim

end Session

variable {r : Request}

/-- A restart is replied to with how it went. -/
theorem restartTooling_replies {α : Type} {c : RequestChannel} {fine : Payload → Prop}
    (fits : ∀ outcome again, fine (.shutdownReply outcome again)) {prepare : Job α}
    (mute : prepare.Within Action.Mute fun _ => True) :
    (restartTooling c r prepare).Replies c r fine := by
  refine .later trivial fun o => mute.replies fun a _ => ?_
  cases o with
  | ok g => exact .now (fits _ _) trivial
  | error e => exact .now (fits _ _) trivial

theorem shutDown_replies {c : RequestChannel} {fine : Payload → Prop}
    (fits : ∀ outcome again, fine (.shutdownReply outcome again)) :
    (shutDown c r).Replies c r fine := by
  refine .risking (fun _ => nofun) (fun x fatal => ?_) fun x sound => ?_
  · obtain ⟨m, rfl⟩ := fatal
    trivial
  · cases x with
    | crashed m => exact (sound ⟨m, rfl⟩).elim
    | stopped => exact .now (fits _ _) ⟨trivial, fun _ => trivial⟩

/-- Every service of the shell replies once, unless it is cut short. -/
theorem Session.serve_fares {s : Session} {service : Service} {t : List Occurrence}
    {x : Session × Verdict} (reads : service.Reads r.content)
    (run : (s.serve r service).Runs t x) :
    Fares .shell r (Payload.Answers service (leasesIn t ≠ [])) t := by
  cases service with
  | kernelInfo =>
    exact (replies_reply (.of_type rfl (by simp [Service.OfDraft])) _).fares run
  | history =>
    exact (replies_reply (.of_type rfl (by simp [Service.OfDraft])) _).fares run
  | execute =>
    obtain ⟨code, content⟩ := reads
    simp only [serve, content] at run
    exact (execute_replies s code fun _ => .of_type rfl (by simp [Service.OfDraft])).fares run
  | complete =>
    obtain ⟨code, cursor, content⟩ := reads
    simp only [serve, content] at run
    exact (complete_fares run).mono fun p fits => ⟨fits.1, fun _ => fits.2⟩
  | inspect =>
    obtain ⟨code, cursor, detail, content⟩ := reads
    simp only [serve, content] at run
    exact (inspect_fares run).mono fun p fits => ⟨fits.1, fun _ => fits.2⟩
  | shutdown =>
    obtain ⟨again, content⟩ := reads
    have fits (outcome : String) (again : Bool) : Payload.Answers .shutdown (leasesIn t ≠ [])
        (.shutdownReply outcome again) := .of_type rfl (by simp [Service.OfDraft])
    cases again with
    | true =>
      simp only [serve, content] at run
      refine Replies.fares (.bind (restartTooling_replies fits (sync_mute s)) fun _ => ?_) run
      trivial
    | false =>
      simp only [serve, content] at run
      refine Replies.fares (.bind (shutDown_replies fits) fun _ => ?_) run
      trivial

/-- Every service of the control channel replies once, unless it is cut short. -/
theorem Control.serve_fares {config : KernelConfig} {service : Service} {t : List Occurrence}
    {v : Verdict} (offered : service ∈ Service.offered .control) (reads : service.Reads r.content)
    (run : (Control.serve config r service).Runs t v) :
    Fares .control r (Payload.Answers service (leasesIn t ≠ [])) t := by
  simp only [Service.offered, List.mem_cons, List.not_mem_nil, or_false] at offered
  rcases offered with rfl | rfl
  · refine Replies.fares (.now (.of_type rfl (by simp [Service.OfDraft])) ?_) run
    trivial
  · obtain ⟨again, content⟩ := reads
    have fits (outcome : String) (again : Bool) : Payload.Answers .shutdown (leasesIn t ≠ [])
        (.shutdownReply outcome again) := .of_type rfl (by simp [Service.OfDraft])
    cases again with
    | true =>
      simp only [serve, content] at run
      refine Replies.fares (.bind (restartTooling_replies fits ?_) fun _ => ?_) run
      · trivial
      · trivial
    | false =>
      simp only [serve, content] at run
      exact (shutDown_replies fits).fares run

/-- A service in its envelope fares like the service alone. -/
theorem enveloped_fares {α : Type} {c : RequestChannel} {service : Service} {job : Job α}
    {t : List Occurrence} {a : α} (run : (enveloped r job).Runs t a)
    (h : ∀ u, job.Runs u a → Fares c r (Payload.Answers service (leasesIn u ≠ [])) u) :
    Fares c r (Payload.Answers service (leasesIn t ≠ [])) t := by
  obtain ⟨u, served, rfl⟩ := enveloped_trace run
  have status (busy : Bool) : Uneventful [⟨.emit (.broadcast r (.status busy)), ()⟩] :=
    uneventful_of_mute fun o ho => List.mem_singleton.mp ho ▸ rfl
  have fares := ((h u served).before (status false)).after (status true)
  simpa using fares

theorem Session.process_fares {s : Session} {service : Service} {t : List Occurrence}
    {x : Session × Verdict} (routed : Service.find? .shell r.msgType = some service)
    (reads : service.Reads r.content) (run : (s.process r).Runs t x) :
    Fares .shell r (Payload.Answers service (leasesIn t ≠ [])) t := by
  obtain ⟨u, s', v, rfl, synced, served⟩ := runs_bind.mp run
  simp only [routed] at served
  have unleased : leasesIn u = [] := by
    simp only [sync, bind_eq, perform, Job.bind, pure_eq, runs_act, runs_done] at synced
    obtain ⟨g, _, rfl, rfl, _⟩ := synced
    rfl
  have fares := (enveloped_fares served fun w => serve_fares reads).after
    (synced.uneventful (sync_mute s))
  rw [leasesIn_append, unleased, List.nil_append]
  exact fares

theorem Control.process_fares {config : KernelConfig} {service : Service} {t : List Occurrence}
    {v : Verdict} (routed : Service.find? .control r.msgType = some service)
    (reads : service.Reads r.content) (run : (Control.process config r).Runs t v) :
    Fares .control r (Payload.Answers service (leasesIn t ≠ [])) t := by
  simp only [process, routed] at run
  exact enveloped_fares run fun u => serve_fares (List.mem_of_find?_eq_some routed) reads

namespace Kernel

variable {σ : Type}

/-- What a loop does for a request that came off the wire and that it serves, in whatever state
the kernel is and whatever answers come. It replies once, on its own channel and with the right
type, and with success to a question about a draft while the kernel is running; unless the tooling
crashes where that is fatal: then it never replies. -/
theorem replied_once (k : Kernel σ) (c : RequestChannel) (m : Message) (r : Request)
    (service : Service) (typed : Request.ofMessage m = .ok r)
    (routed : Service.find? c r.msgType = some service)
    (answer : List Occurrence → (a : Action) → a.Answer) :
    let t := ((k.service r c).follow answer []).1
    ((∀ o ∈ t, ¬o.Fatal) → ∃ p, repliesIn t = [.reply c r p] ∧ p.msgType = service.replyType ∧
      (service.OfDraft → leasesIn t ≠ [] → p.IsOk)) ∧
    ((∃ o ∈ t, o.Fatal) → repliesIn t = []) := by
  intro t
  have reads : service.Reads r.content := Request.reads_of_ofMessage typed routed
  have fares : Fares c r (Payload.Answers service (leasesIn t ≠ [])) t := by
    obtain ⟨u, traced, run⟩ := (k.service r c).follow_runs answer []
    have same : t = u := traced
    rw [same]
    cases c with
    | shell =>
      obtain ⟨v, x, w, rfl, processed, ended⟩ := runs_bind.mp run
      obtain ⟨rfl, _⟩ := runs_done.mp ended
      rw [List.append_nil]
      exact Session.process_fares routed reads processed
    | control =>
      obtain ⟨v, x, w, rfl, processed, ended⟩ := runs_bind.mp run
      obtain ⟨rfl, _⟩ := runs_done.mp ended
      rw [List.append_nil]
      exact Control.process_fares routed reads processed
  cases fares with
  | answered p fits replies sound =>
    refine ⟨fun _ => ⟨p, replies, fits.typed, fits.succeeds⟩, ?_⟩
    rintro ⟨o, happened, fatal⟩
    exact (sound o happened fatal).elim
  | lost o happened fatal replies =>
    exact ⟨fun sound => (sound o happened fatal).elim, fun _ => replies⟩

/-- A kernel with scripted tooling whose completions crash. -/
def distracted : Kernel Script :=
  new .standard Script.backend { faults := { complete := some (.crash (some "out of luck")) } } true

/-- A request to complete `foo.ba` at its end. -/
def completion : Message :=
  ⟨[], ⟨"1", "", "", "", "complete_request", ""⟩, none, [],
    .object [("code", .string "foo.ba"), ("cursor_pos", .nat 6)], []⟩

/-- The tooling is started, and then the completion is asked for and served. -/
def completionAsked : List (Move Script) :=
  .restart 0 :: .go 0 :: List.replicate 7 (.go 1) ++ List.replicate 2 (.go 0) ++
    [.arrive .shell completion, .look .shell] ++ List.replicate 6 (.go 0)

/-- The kernel is running. It is busy with the completion and then idle, and it has not replied. -/
theorem completion_unanswered :
    let k := distracted.play completionAsked
    k.supervisor.lifecycle = .running ∧
      k.verdicts = [.error (.handlerPanicked "out of luck")] ∧
      k.emitted.map Emission.payload = [.status true, .status false] ∧
      k.emitted.filter Emission.isReply = [] := by
  exact ⟨rfl, rfl, rfl, rfl⟩

def completionRequest : Request := ⟨[], completion.header, [], .complete "foo.ba" 6⟩

/-- The completion is asked of tooling that has nothing to offer. -/
def completionTrace : List Occurrence :=
  ((distracted.service completionRequest .shell).follow Session.crashingTooling []).1

theorem completion_answered :
    ∃ p, repliesIn completionTrace = [.reply .shell completionRequest p] ∧
      p.msgType = "complete_reply" ∧ p.IsOk := by
  have typed : Request.ofMessage completion = .ok completionRequest := rfl
  have sound : ∀ o ∈ completionTrace, ¬o.Fatal := by decide +kernel
  have leased : leasesIn completionTrace ≠ [] := by decide +kernel
  obtain ⟨p, replies, type, succeeds⟩ :=
    (replied_once distracted .shell completion completionRequest .complete typed rfl
      Session.crashingTooling).1 sound
  exact ⟨p, replies, type, succeeds (.inl rfl) leased⟩

end Kernel

end NotebookKernel
