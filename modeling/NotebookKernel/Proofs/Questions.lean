import NotebookKernel.Proofs.Counting
import NotebookKernel.Proofs.Replies
import NotebookKernel.Proofs.TokenSpans

/-!
# Questions about a draft

A completion names the range of the text that its candidates replace. If the tooling answers, this
is the token around the cursor, which lies within the text and holds the cursor. If it fails, the
range is empty and stands where the request has its cursor, even if that is beyond the text.
-/

namespace NotebookKernel

open Json Job

@[simp] theorem sentIn_call {c : ToolingCall} (x : c.Answer) (t : List Occurrence) :
    sentIn (⟨.call c, x⟩ :: t) = sentIn t := rfl

@[simp] theorem callsIn_call {c : ToolingCall} (x : c.Answer) (t : List Occurrence) :
    callsIn (⟨.call c, x⟩ :: t) = ⟨.call c, x⟩ :: callsIn t := rfl

@[simp] theorem generationsIn_call {c : ToolingCall} (x : c.Answer) (t : List Occurrence) :
    generationsIn (⟨.call c, x⟩ :: t) = generationsIn t := rfl

@[simp] theorem leasesIn_call {c : ToolingCall} (x : c.Answer) (t : List Occurrence) :
    leasesIn (⟨.call c, x⟩ :: t) = leasesIn t := rfl

/-- The tooling did not find completions. -/
def Occurrence.Declines : Occurrence → Prop
  | ⟨.call (.complete _ _ _), x⟩ => ∃ e, x = .failed e
  | _ => False

theorem exists_declines {t : List Occurrence} :
    (∃ o ∈ t, o.Declines) ↔ ∃ o ∈ callsIn t, o.Declines := by
  constructor
  · rintro ⟨o, happened, declines⟩
    refine ⟨o, List.mem_filter.mpr ⟨happened, ?_⟩, declines⟩
    obtain ⟨a, x⟩ := o
    cases a with
    | call c => rfl
    | _ => exact declines.elim
  · rintro ⟨o, happened, declines⟩
    exact ⟨o, (List.mem_filter.mp happened).1, declines⟩

theorem not_isOk_refused (e : ErrorContent) : ¬(Payload.completeReply (.error e)).IsOk := by
  simp [Payload.IsOk, Payload.content, CompleteReply.content, ErrorContent.entries,
    ErrorContent.fields, ErrorContent.toCarrier, Fields.toEntries, Reply.statusEntry,
    Value.object, Value.get?, Dict.ofList, Dict.get?_insert]

/-- A range lies within a text and holds a cursor; one beyond the text is at its end. -/
structure Spans (code : String) (cursor first last : Nat) : Prop where
  first_le : first ≤ min cursor code.toList.length
  le_last : min cursor code.toList.length ≤ last
  last_le : last ≤ code.toList.length

instance (code : String) (cursor first last : Nat) : Decidable (Spans code cursor first last) :=
  decidable_of_iff (first ≤ min cursor code.toList.length ∧ min cursor code.toList.length ≤ last ∧
    last ≤ code.toList.length) ⟨fun ⟨a, b, c⟩ => ⟨a, b, c⟩, fun ⟨a, b, c⟩ => ⟨a, b, c⟩⟩

theorem spans_scan (code : String) (cursor : Nat) :
    let span := TokenSpan.scan code.toList cursor
    Spans code cursor span.start span.stop := by
  intro span
  have around : span.Surrounds code.toList cursor := TokenSpan.scan_surrounds _ _
  refine ⟨?_, ?_, around.stop_le⟩
  · rw [← around.cursor]
    exact around.start_le
  · rw [← around.cursor]
    exact around.le_stop

/-- The range at the cursor itself lies within the text if the cursor does. -/
theorem spans_cursor {code : String} {cursor : Nat} :
    Spans code cursor cursor cursor ↔ cursor ≤ code.toList.length := by
  constructor
  · exact fun h => h.last_le
  · intro inside
    refine ⟨?_, ?_, inside⟩
    · omega
    · omega

namespace Session

variable {s s' : Session} {r : Request} {t : List Occurrence} {v : Verdict} {code : String}
  {cursor : Nat}

theorem seeing_append {u : List Occurrence} (unseen : generationsIn u = []) :
    s.seeing (t ++ u) = s.seeing t := by
  simp [seeing, unseen]

theorem Tells.runs {p : Option Payload} {j : Job (Session × Verdict)} (tells : Tells r s p j)
    (run : j.Runs t (s', v)) :
    callsIn t = [] ∧ generationsIn t = [] ∧ leasesIn t = [] ∧ s' = s ∧
      sentIn t = p.toList.map (.reply .shell r) := by
  cases tells with
  | replies p =>
    simp only [reply, Job.reply, perform, Job.bind, runs_act, runs_done] at run
    obtain ⟨_, _, rfl, rfl, same⟩ := run
    cases same
    exact ⟨rfl, rfl, rfl, rfl, rfl⟩
  | crashes m =>
    obtain ⟨rfl, same⟩ := runs_done.mp run
    cases same
    exact ⟨rfl, rfl, rfl, rfl, rfl⟩

/-- A question is refused, or asked of the live session about the current cell with its new text,
and the answer is told. -/
theorem Asks.runs {q : Question} {ask : Session → Job (Session × Verdict)} (asks : Asks r q ask)
    (run : (ask s).Runs t (s', v)) :
    (leasesIn t = [] ∧ callsIn t = [] ∧ s' = s.seeing t ∧
      sentIn t = [.reply .shell r q.refusal]) ∨
    ∃ l x, leasesIn t = [l] ∧
      callsIn t = [⟨.call (q.call l.session ((s.seeing t).cells.update q.code).current), x⟩] ∧
      s' = { s.seeing t with cells := (s.seeing t).cells.update q.code } ∧
      sentIn t = (q.told _ _ x).toList.map (.reply .shell r) := by
  obtain ⟨j, same, refuses, calls⟩ := asks
  rw [same] at run
  obtain ⟨t₁, ⟨s₁, tooling⟩, t₂, rfl, leasing, going⟩ := runs_bind.mp run
  obtain ⟨sent₁, calls₁, adopted, granted⟩ := lease_runs leasing
  cases tooling with
  | none =>
    obtain ⟨calls₂, unseen, unleased, rfl, sent₂⟩ := (refuses s₁).runs going
    have none : leasesIn t₁ = [] := List.map_eq_nil_iff.mp granted
    exact .inl ⟨by simp [none, unleased], by simp [calls₁, calls₂],
      adopted.trans (seeing_append unseen).symm, by simp [sent₁, sent₂]⟩
  | some tooling =>
    obtain ⟨l, leased, rfl⟩ := List.map_eq_singleton_iff.mp granted
    obtain ⟨rest, called, tells⟩ := calls s₁ l.session
    rw [called, runs_act] at going
    obtain ⟨x, t₃, rfl, going⟩ := going
    obtain ⟨calls₃, unseen, unleased, rfl, sent₃⟩ := (tells x).runs going
    have seen : s.seeing (t₁ ++ ⟨.call (q.call l.session (s₁.cells.update q.code).current), x⟩ ::
        t₃) = s₁ :=
      (seeing_append (by simpa using unseen)).trans adopted.symm
    refine .inr ⟨l, ?_⟩
    rw [seen]
    exact ⟨x, by simp [leased, unleased], by simp [calls₁, calls₃], rfl, by simp [sent₁, sent₃]⟩

theorem complete_runs (run : (s.complete r code cursor).Runs t (s', v)) :
    (leasesIn t = [] ∧ callsIn t = [] ∧ s' = s.seeing t ∧
      sentIn t = [.reply .shell r (.completeReply (.error (failure .notRunning)))]) ∨
    ∃ l x, leasesIn t = [l] ∧
      callsIn t = [⟨.call (.complete l.session ((s.seeing t).cells.update code).current
        (.scan code.toList cursor)), x⟩] ∧
      s' = { s.seeing t with cells := (s.seeing t).cells.update code } ∧
      sentIn t = (completion? code cursor x).toList.map (.reply .shell r) :=
  (complete_asks r code cursor).runs run

/-- A request for completions that is answered with success is told a range. If the tooling fails,
there are no candidates and the range is empty at the cursor of the request. The range lies within
the text and holds the cursor, unless the tooling fails and the cursor is beyond the text. -/
theorem completion_range (s : Session) (r : Request) (code : String) (cursor : Nat)
    (typed : r.msgType = "complete_request") (content : r.content = .complete code cursor)
    (answer : List Occurrence → (a : Action) → a.Answer) :
    let t := ((s.process r).follow answer []).1
    ∀ c q p, Emission.reply c q p ∈ sentIn t → p.IsOk →
      ∃ candidates first last, p = .completeReply (.ok candidates first last []) ∧
        ((∃ o ∈ t, o.Declines) → candidates = [] ∧ first = cursor ∧ last = cursor) ∧
        (Spans code cursor first last ↔ ((∃ o ∈ t, o.Declines) → cursor ≤ code.toList.length)) := by
  intro t c q p sent ok
  obtain ⟨u, traced, run⟩ := (s.process r).follow_runs answer []
  have same : t = u := traced
  rw [same] at sent ⊢
  have served : Service.find? .shell r.msgType = some .complete := by
    rw [typed]
    rfl
  obtain ⟨_, _, _, unserved⟩ | ⟨g, service, w, routed, asked, rfl⟩ := process_runs run
  · rw [served] at unserved
    cases unserved
  obtain rfl : Service.complete = service := Option.some.inj (served.symm.trans routed)
  simp only [serve, content] at asked
  replace sent : Emission.reply c q p ∈ sentIn w := by simpa using sent
  rw [exists_declines]
  simp only [callsIn_generation, callsIn_emit, callsIn_append, callsIn_nil, List.append_nil]
  obtain ⟨_, _, _, refused⟩ | ⟨l, x, _, calls, _, answered⟩ := complete_runs asked
  · rw [refused, List.mem_singleton] at sent
    cases sent
    exact absurd ok (not_isOk_refused _)
  rw [calls]
  rw [answered] at sent
  cases x with
  | value candidates =>
    obtain ⟨rfl, rfl, rfl⟩ : c = .shell ∧ q = r ∧ p = _ := by simpa [completion?] using sent
    have span := spans_scan code cursor
    exact ⟨_, _, _, rfl, by simp [Occurrence.Declines], by simp [Occurrence.Declines, span]⟩
  | failed e =>
    obtain ⟨rfl, rfl, rfl⟩ : c = .shell ∧ q = r ∧ p = _ := by simpa [completion?] using sent
    refine ⟨_, _, _, rfl, fun _ => ⟨rfl, rfl, rfl⟩, ?_⟩
    simp [Occurrence.Declines, spans_cursor]
  | crashed m => simp [completion?] at sent

/-- Tooling that is running and never finds completions. -/
def decliningTooling : List Occurrence → (a : Action) → a.Answer
  | _, .call (.complete _ _ _) => .failed (.unavailable "ide server crashed")
  | past, a => crashingTooling past a

/-- A request to complete `foo.ba` at a cursor. -/
def completing (cursor : Nat) : Request :=
  ⟨[], ⟨"1", "", "", "", "complete_request", ""⟩, [], .complete "foo.ba" cursor⟩

/-- A completion that fails within the text names an empty range of it. -/
theorem completion_range_inside :
    let t := (((Session.new .standard).process (completing 6)).follow decliningTooling []).1
    let p := Payload.completeReply (.ok [] 6 6 [])
    Emission.reply .shell (completing 6) p ∈ sentIn t ∧ p.IsOk ∧ (∃ o ∈ t, o.Declines) ∧
      Spans "foo.ba" 6 6 6 := by
  intro t p
  have sent : Emission.reply .shell (completing 6) p ∈ sentIn t := .tail _ (.head _)
  have ok : p.IsOk := isOk_complete _ _ _ _
  obtain ⟨candidates, first, last, same, _, spans⟩ :=
    completion_range (.new .standard) (completing 6) "foo.ba" 6 rfl rfl decliningTooling _ _ p sent
      ok
  obtain ⟨-, rfl, rfl⟩ : candidates = [] ∧ first = 6 ∧ last = 6 := by simpa [p, eq_comm] using same
  refine ⟨sent, ok, ?_, spans.mpr fun _ => by decide⟩
  exact ⟨⟨.call (.complete 1 _ _), .failed _⟩, .tail _ (.tail _ (.tail _ (.head _))), _, rfl⟩

end Session

namespace Kernel

/-- A kernel with scripted tooling that never finds completions. -/
def hesitant : Kernel Script :=
  new .standard Script.backend { completions := .error "ide server crashed" } true

/-- A request to complete `abc` far behind its end. -/
def beyond : Message :=
  .asking "complete_request" [("code", .string "abc"), ("cursor_pos", .nat 99)]

/-- The reply reports success and names a range beyond the text. -/
theorem completion_beyond :
    let k := hesitant.play (started ++ serving beyond)
    let p := Payload.completeReply (.ok [] 99 99 [])
    k.verdicts = [.ok ()] ∧ (k.emitted.filter Emission.isReply).map Emission.payload = [p] ∧
      p.IsOk ∧ ¬Spans "abc" 99 99 99 := by
  refine ⟨rfl, rfl, isOk_complete _ _ _ _, by decide⟩

end Kernel

end NotebookKernel
