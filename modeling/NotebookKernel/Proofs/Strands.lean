import NotebookKernel.Proofs.Envelope
import NotebookKernel.Proofs.Schedule

/-!
# What strands may do

A strand of a request loop serves one request and then hands over to its loop. Strands of
nobody's loop send nothing. Strands of the shell call the tooling about cells, and no others
call it but flights and stops, to start and to close sessions. The journal is only ever
written at its end, and nothing is begun in it once the loops have to end.
-/

namespace NotebookKernel

open Job

def Finish.loop? : Finish → Option RequestChannel
  | .shell _ _ _ => some .shell
  | .control _ _ => some .control
  | .call _ _ => none

namespace Kernel

variable {σ : Type} (k : Kernel σ) (c d : RequestChannel) (l : Lane) (e : Event) (w : Work)
  (loop : Option RequestChannel)

@[simp] theorem note_lane : (k.note e).lane c = k.lane c := by cases c <;> rfl

@[simp] theorem note_strands : (k.note e).strands = k.strands := rfl

@[simp] theorem note_journal : (k.note e).journal = k.journal ++ [e] := rfl

@[simp] theorem note_supervisor : (k.note e).supervisor = k.supervisor := rfl

@[simp] theorem note_landings : (k.note e).landings = k.landings := rfl

@[simp] theorem note_signals : (k.note e).signals = k.signals := rfl

@[simp] theorem note_obedient : (k.note e).obedient = k.obedient := rfl

@[simp] theorem withLane_lane : (k.withLane d l).lane c = if d = c then l else k.lane c := by
  cases c <;> cases d <;> rfl

@[simp] theorem withLane_strands : (k.withLane d l).strands = k.strands := by cases d <;> rfl

@[simp] theorem withLane_journal : (k.withLane d l).journal = k.journal := by cases d <;> rfl

@[simp] theorem withLane_signals : (k.withLane d l).signals = k.signals := by cases d <;> rfl

@[simp] theorem withLane_obedient : (k.withLane d l).obedient = k.obedient := by cases d <;> rfl

@[simp] theorem spawn_lane : (k.spawn loop w).lane c = k.lane c := by cases c <;> rfl

@[simp] theorem spawn_strands :
    (k.spawn loop w).strands = k.strands ++ [⟨some k.now, w, loop⟩] := rfl

@[simp] theorem spawn_journal : (k.spawn loop w).journal = k.journal := rfl

/-- The kernel without its strands. -/
def bare : Kernel σ := { k with strands := [] }

@[simp] theorem bare_lane : k.bare.lane c = k.lane c := by cases c <;> rfl

@[simp] theorem bare_strands : k.bare.strands = [] := rfl

@[simp] theorem bare_journal : k.bare.journal = k.journal := rfl

variable (before after : List Strand) (s : Strand)

/-- What becomes of a strand, and of the kernel without its other strands. -/
def stepped : Continuation σ := k.bare.proceed s.loop s.work

/-- The strand after its step, if it is not at its end. -/
def Continuation.strand (next : Continuation σ) (loop : Option RequestChannel) : List Strand :=
  (next.1.map fun (wake, work) => (⟨wake, work, loop⟩ : Strand)).toList

theorem resume_strands : (k.resume before s after).strands =
    before ++ (k.stepped s).strand s.loop ++ after ++ (k.stepped s).2.strands := rfl

theorem resume_lane : (k.resume before s after).lane c = (k.stepped s).2.lane c := by
  cases c <;> rfl

theorem resume_journal : (k.resume before s after).journal = (k.stepped s).2.journal := rfl

end Kernel

/-- Is the strand allowed to do this? -/
def Minds (loop : Option RequestChannel) : Action → Prop
  | .emit _ => loop ≠ none
  | .call t => loop = some .shell ∧ t.aboutCells
  | _ => True

/-- The rest of the work keeps to what a strand may do, and ends where it belongs. -/
def Work.Stays (loop : Option RequestChannel) : Work → Prop
  | .job j => j.Within (Minds loop) fun f => f.loop? = loop
  | .joined _ next => ∀ o, (next o).Within (Minds loop) fun f => f.loop? = loop
  | .stopping _ next => ∀ o, (next o).Within (Minds loop) fun f => f.loop? = loop
  | .flying _ _ => loop = none

/-- A flight that is not over has something to do. -/
theorem FlightPhase.turn_ne_finished {p : FlightPhase} (h : p.outcome? = none) :
    p.turn ≠ .finished := by
  cases p with
  | retiring target old => cases old <;> simp [turn, Retirement.turn]
  | discarding old => cases old <;> simp [turn, Retirement.turn]
  | landed o => cases h
  | crashed m => cases h
  | _ => simp [turn]

/-- A stop that is not over has something to do. -/
theorem StopPhase.turn_ne_finished {p : StopPhase} (h : p.outcome? = none) :
    p.turn ≠ .finished := by
  cases p with
  | entering => simp [turn]
  | retiring old => cases old <;> simp [turn, Retirement.turn]
  | ended => cases h
  | crashed m => cases h

def Work.IsJob : Work → Prop
  | .job _ => True
  | _ => False

theorem minds_of_handles {c : RequestChannel} {r : Request} (a : Action) (h : Handles c r a) :
    Minds (some c) a := by
  cases a with
  | call t => exact ⟨congrArg some h.1, h.2⟩
  | emit e => simp [Minds]
  | _ => trivial

/-- The envelope adds nothing that a request loop may not do. -/
theorem enveloped_within {α : Type} {c : RequestChannel} {r : Request} {job : Job α}
    {good : α → Prop} (h : job.Within (Minds (some c)) good) :
    (enveloped r job).Within (Minds (some c)) good := by
  refine ⟨by simp [Minds], fun _ => Within.bind (j := job) h fun a ha => ?_⟩
  exact ⟨by simp [Minds], fun _ => ha⟩

theorem Session.process_within (s : Session) (r : Request) :
    (s.process r).Within (Minds (some .shell)) fun _ => True := by
  refine ⟨trivial, fun g => ?_⟩
  cases Service.find? .shell r.msgType with
  | none => trivial
  | some service =>
    exact enveloped_within ((serve_within _ r service).mono minds_of_handles fun _ _ => trivial)

theorem Control.process_within (config : KernelConfig) (r : Request) :
    (Control.process config r).Within (Minds (some .control)) fun _ => True := by
  unfold process
  cases Service.find? .control r.msgType with
  | none => trivial
  | some service =>
    exact enveloped_within
      ((serve_within config r service).mono minds_of_handles fun _ _ => trivial)

namespace Kernel

variable {σ : Type} {k : Kernel σ}

theorem service_stays (k : Kernel σ) (r : Request) (c : RequestChannel) :
    (Work.job (k.service r c)).Stays (some c) := by
  cases c with
  | shell => exact (k.session.process_within r).bind fun _ _ => rfl
  | control => exact (Control.process_within k.config r).bind fun _ _ => rfl

/-- Do the loops have to end? -/
def stopping (k : Kernel σ) : Bool := k.obedient && 0 < k.signals

end Kernel

/-- May the event be remembered while the loops have to end, or need not? Only loops send, and
they begin nothing when they have to end. -/
def Event.Fits (stopping : Bool) : Event → Prop
  | begun _ _ => stopping = false
  | sent loop _ => loop ≠ none
  | signalled => False
  | _ => True

/-- Is the event the beginning or the end of something? -/
def Event.OfLoops : Event → Prop
  | begun _ _ => True
  | served _ _ _ => True
  | closed _ => True
  | returned _ _ => True
  | _ => False

namespace Kernel

variable {σ : Type} {k : Kernel σ}

/-- A loop looks for work, or a strand comes to its end: the supervisor has no part in it. -/
structure Feeds (k j : Kernel σ) : Prop where
  config : j.config = k.config
  obedient : j.obedient = k.obedient
  signals : j.signals = k.signals
  supervisor : j.supervisor = k.supervisor
  landings : j.landings = k.landings
  strands : ∃ ss, j.strands = k.strands ++ ss ∧ ∀ s ∈ ss, s.work.IsJob ∧ s.work.Stays s.loop
  journal : ∃ es, j.journal = k.journal ++ es ∧ ∀ e ∈ es, e.Fits k.stopping ∧ e.OfLoops

theorem Feeds.refl (k : Kernel σ) : k.Feeds k :=
  ⟨rfl, rfl, rfl, rfl, rfl, ⟨[], by simp, by simp⟩, ⟨[], by simp, by simp⟩⟩

theorem Feeds.stopping {j : Kernel σ} (h : k.Feeds j) : j.stopping = k.stopping := by
  rw [Kernel.stopping, Kernel.stopping, h.obedient, h.signals]

theorem Feeds.trans {i j : Kernel σ} (first : i.Feeds k) (second : k.Feeds j) : i.Feeds j where
  config := second.config.trans first.config
  obedient := second.obedient.trans first.obedient
  signals := second.signals.trans first.signals
  supervisor := second.supervisor.trans first.supervisor
  landings := second.landings.trans first.landings
  strands := by
    obtain ⟨ss, began, jobs⟩ := first.strands
    obtain ⟨ts, alsoBegan, alsoJobs⟩ := second.strands
    refine ⟨ss ++ ts, by rw [alsoBegan, began, List.append_assoc], fun s hs => ?_⟩
    exact (List.mem_append.mp hs).elim (jobs s) (alsoJobs s)
  journal := by
    obtain ⟨es, written, fit⟩ := first.journal
    obtain ⟨fs, alsoWritten, alsoFit⟩ := second.journal
    refine ⟨es ++ fs, by rw [alsoWritten, written, List.append_assoc], fun e he => ?_⟩
    rcases List.mem_append.mp he with he | he
    · exact fit e he
    · exact first.stopping ▸ alsoFit e he

theorem feeds_withLane (k : Kernel σ) (c : RequestChannel) (l : Lane) :
    k.Feeds (k.withLane c l) := by
  cases c with
  | shell => exact ⟨rfl, rfl, rfl, rfl, rfl, ⟨[], by simp, by simp⟩, ⟨[], by simp, by simp⟩⟩
  | control => exact ⟨rfl, rfl, rfl, rfl, rfl, ⟨[], by simp, by simp⟩, ⟨[], by simp, by simp⟩⟩

theorem feeds_note (k : Kernel σ) {e : Event} (fits : e.Fits k.stopping) (loops : e.OfLoops) :
    k.Feeds (k.note e) :=
  ⟨rfl, rfl, rfl, rfl, rfl, ⟨[], by simp, by simp⟩, ⟨[e], rfl, by simpa using ⟨fits, loops⟩⟩⟩

theorem feeds_spawn (k : Kernel σ) {loop : Option RequestChannel} {w : Work} (job : w.IsJob)
    (stays : w.Stays loop) : k.Feeds (k.spawn loop w) :=
  ⟨rfl, rfl, rfl, rfl, rfl, ⟨[⟨some k.now, w, loop⟩], rfl, by simpa using ⟨job, stays⟩⟩,
    ⟨[], by simp, by simp⟩⟩

theorem feeds_feedLane (k : Kernel σ) (c : RequestChannel) : k.Feeds (k.feedLane c) := by
  unfold feedLane
  split
  · exact .refl k
  · split
    · have ended := feeds_note (k.withLane c (k.lane c).close) (e := .closed c) trivial trivial
      exact (feeds_withLane k c _).trans ended
    · rename_i going
      split
      · exact .refl k
      · rename_i r rest _
        have opened := feeds_withLane k c ⟨rest, true, false⟩
        have fits : (Event.begun c r).Fits (k.withLane c ⟨rest, true, false⟩).stopping := by
          simpa [Event.Fits, Kernel.stopping] using going
        exact (opened.trans (feeds_note _ fits trivial)).trans
          (feeds_spawn _ trivial (k.service_stays r c))

theorem feeds_feed (k : Kernel σ) : k.Feeds k.feed :=
  (feeds_feedLane k .control).trans (feeds_feedLane _ .shell)

theorem feeds_release (k : Kernel σ) (c : RequestChannel) (r : Request) (v : Verdict) :
    k.Feeds (k.release c r v) :=
  ((feeds_withLane k c (k.lane c).release).trans
    (feeds_note _ (e := .served c r v) trivial trivial)).trans (feeds_feed _)

theorem feeds_finish (k : Kernel σ) (f : Finish) : k.Feeds (k.finish f) := by
  cases f with
  | shell r s v =>
    obtain ⟨config, obedient, signals, supervisor, landings, strands, journal⟩ :=
      feeds_release { k with session := s } .shell r v
    exact ⟨config, obedient, signals, supervisor, landings, strands, journal⟩
  | control r v => exact feeds_release k .control r v
  | call tag result => exact feeds_note k (e := .returned tag result) trivial trivial

/-- What every step leaves as it is, and how it may add to the rest. -/
structure Grows (k j : Kernel σ) : Prop where
  config : j.config = k.config
  obedient : j.obedient = k.obedient
  signals : j.signals = k.signals
  strands : ∀ s ∈ j.strands, s ∈ k.strands ∨ s.work.Stays s.loop
  journal : ∃ es, j.journal = k.journal ++ es ∧ ∀ e ∈ es, e.Fits k.stopping

theorem Grows.stopping {j : Kernel σ} (h : k.Grows j) : j.stopping = k.stopping := by
  rw [Kernel.stopping, Kernel.stopping, h.obedient, h.signals]

theorem Grows.same {j : Kernel σ} (config : j.config = k.config)
    (obedient : j.obedient = k.obedient) (signals : j.signals = k.signals)
    (strands : j.strands = k.strands) (journal : j.journal = k.journal) : k.Grows j where
  config := config
  obedient := obedient
  signals := signals
  strands _ hs := Or.inl (strands ▸ hs)
  journal := ⟨[], by simp [journal], by simp⟩

theorem Feeds.grows {j : Kernel σ} (h : k.Feeds j) : k.Grows j where
  config := h.config
  obedient := h.obedient
  signals := h.signals
  strands s hs := by
    obtain ⟨ss, began, jobs⟩ := h.strands
    rw [began, List.mem_append] at hs
    exact hs.imp_right fun new => (jobs s new).2
  journal := by
    obtain ⟨es, written, fit⟩ := h.journal
    exact ⟨es, written, fun e he => (fit e he).1⟩

theorem grows_spawn (k : Kernel σ) {loop : Option RequestChannel} {w : Work}
    (stays : w.Stays loop) : k.Grows (k.spawn loop w) where
  config := rfl
  obedient := rfl
  signals := rfl
  strands s hs := by
    rw [spawn_strands, List.mem_append, List.mem_singleton] at hs
    rcases hs with hs | rfl
    · exact Or.inl hs
    · exact Or.inr stays
  journal := ⟨[], by simp, by simp⟩

theorem grows_note (k : Kernel σ) {e : Event} (fits : e.Fits k.stopping) : k.Grows (k.note e) where
  config := rfl
  obedient := rfl
  signals := rfl
  strands _ := Or.inl
  journal := ⟨[e], rfl, by simpa using fits⟩

theorem grows_ask (k : Kernel σ) (c : ToolingCall) : k.Grows (k.ask c).2 where
  config := rfl
  obedient := rfl
  signals := rfl
  strands _ := Or.inl
  journal := ⟨[.called c (k.backend c k.tooling).1], rfl, by simp [Event.Fits]⟩

theorem grows_takeTurn {φ : Type} (k : Kernel σ) (turn : Turn φ) (work : φ → Work) :
    k.Grows (k.takeTurn turn work (none, k)).2 := by
  cases turn with
  | locked step => exact .same rfl rfl rfl rfl rfl
  | call c next => exact grows_ask k c
  | finished => exact .same rfl rfl rfl rfl rfl

theorem takeTurn_stays {φ : Type} {loop : Option RequestChannel} (k : Kernel σ) (turn : Turn φ)
    {work : φ → Work} (stays : ∀ p, (work p).Stays loop) :
    ∀ x ∈ (k.takeTurn turn work (none, k)).1, x.2.Stays loop := by
  intro x hx
  cases turn with
  | locked step =>
    cases hx
    exact stays _
  | call c next =>
    cases hx
    exact stays _
  | finished => cases hx

/-- A step of a strand leaves work that keeps to the rules, and only adds to the kernel. -/
theorem proceed_grows (k : Kernel σ) {loop : Option RequestChannel} {w : Work}
    (stays : w.Stays loop) :
    (∀ x ∈ (k.proceed loop w).1, x.2.Stays loop) ∧ k.Grows (k.proceed loop w).2 := by
  have same : k.Grows k := .same rfl rfl rfl rfl rfl
  cases w with
  | job j =>
    cases j with
    | done f => exact ⟨fun _ hx => (Option.not_mem_none _ hx).elim, (feeds_finish k f).grows⟩
    | act a next =>
      obtain ⟨minds, rest⟩ := stays
      cases a with
      | restart =>
        refine ⟨fun x hx => ?_, ?_⟩
        · cases hx
          exact rest
        · simp only [proceed, act, atOnce]
          split
          · obtain ⟨config, obedient, signals, strands, journal⟩ :=
              grows_spawn k (show Work.Stays none (.flying k.supervisor.join.1 .opening) from rfl)
            exact ⟨config, obedient, signals, strands, journal⟩
          · exact .same rfl rfl rfl rfl rfl
      | stop =>
        refine ⟨fun x hx => ?_, same⟩
        cases hx
        exact rest
      | emit e =>
        refine ⟨fun x hx => ?_, grows_note k minds⟩
        cases hx
        exact rest ()
      | call c =>
        refine ⟨fun x hx => ?_, grows_ask k c⟩
        cases hx
        exact rest _
      | generation | lease | leave =>
        refine ⟨fun x hx => ?_, .same rfl rfl rfl rfl rfl⟩
        cases hx
        exact rest _
  | joined f next =>
    simp only [proceed]
    split
    · refine ⟨fun x hx => ?_, same⟩
      cases hx
      exact stays _
    · refine ⟨fun x hx => ?_, same⟩
      cases hx
      exact stays
  | stopping phase next =>
    simp only [proceed]
    split
    · refine ⟨fun x hx => ?_, same⟩
      cases hx
      exact stays _
    · exact ⟨k.takeTurn_stays _ fun _ => stays, k.grows_takeTurn _ _⟩
  | flying f phase =>
    simp only [proceed]
    split
    · exact ⟨fun _ hx => (Option.not_mem_none _ hx).elim, .same rfl rfl rfl rfl rfl⟩
    · exact ⟨k.takeTurn_stays _ fun _ => stays, k.grows_takeTurn _ _⟩

/-- Every strand keeps to what it may do. -/
def Orderly (k : Kernel σ) : Prop := ∀ s ∈ k.strands, s.work.Stays s.loop

theorem Grows.orderly {j : Kernel σ} (h : k.Grows j) (orderly : k.Orderly) : j.Orderly :=
  fun s hs => (h.strands s hs).elim (orderly s) id

theorem grows_resume {before after : List Strand} {s : Strand}
    (h : k.strands = before ++ s :: after) (orderly : k.Orderly) :
    k.Grows (k.resume before s after) := by
  obtain ⟨goes, grows⟩ := proceed_grows k.bare (orderly s (by simp [h]))
  refine ⟨grows.config, grows.obedient, grows.signals, fun t ht => ?_, grows.journal⟩
  simp only [resume_strands, Continuation.strand, List.append_assoc, List.mem_append,
    Option.mem_toList, Option.map_eq_some_iff] at ht
  rcases ht with ht | ⟨x, hx, rfl⟩ | ht | ht
  · exact Or.inl (by simp [h, ht])
  · exact Or.inr (goes x hx)
  · exact Or.inl (by simp [h, ht])
  · exact Or.inr ((grows.strands t ht).resolve_left (by simp))

theorem call_stays {a : Action} (minds : Minds none a) (result : a.Answer → CallResult)
    (tag : Nat) : (Work.job (.act a fun o => .done (.call tag (result o)))).Stays none :=
  ⟨minds, fun _ => rfl⟩

/-- A move asks the kernel to exit, or it only adds to it. -/
theorem move_cases (orderly : k.Orderly) (m : Move σ) :
    (∃ exits, k.move m = { k with exits := exits }.raise) ∨ k.Grows (k.move m) := by
  have same : k.Grows k := .same rfl rfl rfl rfl rfl
  cases m with
  | go i =>
    simp only [move]
    split
    · rename_i s found
      obtain ⟨bound, rfl⟩ := List.getElem?_eq_some_iff.mp found
      exact Or.inr (grows_resume (by simp) orderly)
    · exact Or.inr same
  | look c => exact Or.inr (feeds_feedLane k c).grows
  | arrive c m =>
    simp only [move]
    split
    · unfold enqueue
      split
      · exact Or.inr same
      · exact Or.inr (feeds_withLane k c _).grows
    · exact Or.inr same
  | restart tag => exact Or.inr (grows_spawn k (call_stays (a := .restart) trivial _ tag))
  | stop tag => exact Or.inr (grows_spawn k (call_stays (a := .stop) trivial _ tag))
  | raise => exact Or.inl ⟨k.exits, rfl⟩
  | leave t =>
    simp only [move]
    split
    · exact Or.inl ⟨_, rfl⟩
    · exact Or.inr same
  | wait t => exact Or.inr (.same rfl rfl rfl rfl rfl)
  | change tooling => exact Or.inr (.same rfl rfl rfl rfl rfl)

theorem move_orderly (orderly : k.Orderly) (m : Move σ) : (k.move m).Orderly := by
  rcases move_cases orderly m with ⟨exits, raised⟩ | grows
  · rw [raised]
    exact orderly
  · exact grows.orderly orderly

theorem new_orderly (config : KernelConfig) (backend : Backend σ) (tooling : σ)
    (obedient : Bool) : (new config backend tooling obedient).Orderly := by
  simp [Orderly, new]

/-- What holds at first and is kept by each move of an orderly kernel holds after every
schedule. -/
theorem play_keeps_orderly {P : List (Move σ) → Kernel σ → Prop} (orderly : k.Orderly)
    (start : P [] k)
    (step : ∀ past m, (k.play past).Orderly → P past (k.play past) →
      P (past ++ [m]) ((k.play past).move m))
    (moves : List (Move σ)) : P moves (k.play moves) := by
  have both : (k.play moves).Orderly ∧ P moves (k.play moves) := by
    refine play_keeps (P := fun past j => j.Orderly ∧ P past j) k ⟨orderly, start⟩ ?_ moves
    rintro past m ⟨tidy, held⟩
    exact ⟨move_orderly tidy m, step past m tidy held⟩
  exact both.2

theorem play_obedient (orderly : k.Orderly) (moves : List (Move σ)) :
    (k.play moves).obedient = k.obedient := by
  refine play_keeps_orderly (P := fun _ j => j.obedient = k.obedient) orderly rfl ?_ moves
  intro past m tidy same
  rcases move_cases tidy m with ⟨exits, raised⟩ | grows
  · rw [raised]
    exact same
  · exact grows.obedient.trans same

/-- What is remembered is never forgotten. -/
theorem move_journal (orderly : k.Orderly) (m : Move σ) : k.journal <+: (k.move m).journal := by
  rcases move_cases orderly m with ⟨exits, raised⟩ | grows
  · rw [raised]
    exact List.prefix_append _ _
  · obtain ⟨es, written, _⟩ := grows.journal
    rw [written]
    exact List.prefix_append _ _

theorem play_journal (orderly : k.Orderly) (moves : List (Move σ)) :
    k.journal <+: (k.play moves).journal := by
  refine play_keeps_orderly (P := fun _ j => k.journal <+: j.journal) orderly
    (List.prefix_refl _) ?_ moves
  intro past m tidy grown
  exact grown.trans (move_journal tidy m)

theorem move_config (orderly : k.Orderly) (m : Move σ) : (k.move m).config = k.config := by
  rcases move_cases orderly m with ⟨exits, raised⟩ | grows
  · rw [raised]
    rfl
  · exact grows.config

/-- Only request loops send, and nothing is begun after the kernel was asked to exit. -/
structure Heeds (k : Kernel σ) : Prop where
  unasked : k.stopping = false → k.obedient = true → .signalled ∉ k.journal
  afterwards : k.obedient = true → ∀ before after, k.journal = before ++ .signalled :: after →
    ∀ c r, .begun c r ∉ after
  attributed : ∀ e, .sent none e ∉ k.journal

theorem Grows.heeds {j : Kernel σ} (h : k.Grows j) (heeds : k.Heeds) : j.Heeds := by
  obtain ⟨es, written, fit⟩ := h.journal
  have unsignalled : .signalled ∉ es := fun he => fit _ he
  refine ⟨fun going obedient => ?_, fun obedient before after cut c r begun => ?_, fun e he => ?_⟩
  · rw [h.stopping] at going
    rw [h.obedient] at obedient
    rw [written, List.mem_append, not_or]
    exact ⟨heeds.unasked going obedient, unsignalled⟩
  · rw [h.obedient] at obedient
    rw [written] at cut
    rcases List.append_eq_append_iff.mp cut with ⟨bs, _, same⟩ | ⟨bs, same, rest⟩
    · exact unsignalled (same ▸ by simp)
    · rcases List.cons_eq_append_iff.mp rest with ⟨_, same⟩ | ⟨bs', rfl, rfl⟩
      · exact unsignalled (same ▸ by simp)
      · rcases List.mem_append.mp begun with old | new
        · exact heeds.afterwards obedient before bs' same c r old
        · refine heeds.unasked (fit _ new) obedient ?_
          rw [same]
          simp
  · rw [written] at he
    rcases List.mem_append.mp he with old | new
    · exact heeds.attributed e old
    · exact fit _ new rfl

theorem raise_heeds (heeds : k.Heeds) : k.raise.Heeds := by
  refine ⟨fun going obedient => ?_, fun obedient before after cut c r begun => ?_, fun e he => ?_⟩
  · have obeys : k.obedient = true := obedient
    simp [raise, Kernel.stopping, obeys] at going
  · simp only [raise, note_journal] at cut
    rcases List.append_eq_append_iff.mp cut with ⟨bs, _, same⟩ | ⟨bs, same, rest⟩
    · rcases List.singleton_eq_append_iff.mp same with ⟨_, last⟩ | ⟨_, last⟩
      · cases last
        cases begun
      · cases last
    · rcases List.cons_eq_append_iff.mp rest with ⟨_, last⟩ | ⟨bs', rfl, rfl⟩
      · cases last
        cases begun
      · rcases List.mem_append.mp begun with old | new
        · exact heeds.afterwards obedient before bs' same c r old
        · simp at new
  · simp only [raise, note_journal, List.mem_append, List.mem_singleton, reduceCtorEq,
      or_false] at he
    exact heeds.attributed e he

theorem move_heeds (orderly : k.Orderly) (heeds : k.Heeds) (m : Move σ) : (k.move m).Heeds := by
  rcases move_cases orderly m with ⟨exits, raised⟩ | grows
  · rw [raised]
    exact raise_heeds ⟨heeds.unasked, heeds.afterwards, heeds.attributed⟩
  · exact grows.heeds heeds

theorem play_heeds (config : KernelConfig) (backend : Backend σ) (tooling : σ)
    (obedient : Bool) (moves : List (Move σ)) :
    ((new config backend tooling obedient).play moves).Heeds := by
  have start : (new config backend tooling obedient).Heeds :=
    ⟨fun _ _ => by simp [new], fun _ _ _ cut => by simp [new] at cut, fun _ => by simp [new]⟩
  refine play_keeps_orderly (P := fun _ k => k.Heeds) (new_orderly config backend tooling obedient)
    start ?_ moves
  intro past m orderly heeds
  exact move_heeds orderly heeds m

end Kernel

end NotebookKernel
