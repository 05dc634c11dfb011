import NotebookKernel.Proofs.Remembrance
import NotebookKernel.Tooling.Scripted

/-!
# The setup cell

The shell compiles the setup cell on each session of the tooling before the cells of users. What
it remembers is kept by every request that it serves, however the tooling answers and whatever
others do meanwhile, and so holds under every schedule.
-/

namespace NotebookKernel

open Job

namespace Session

variable {config : KernelConfig} {calm : Prop} {s t : Session} {past past' : List Incident}
  {c : SessionId} {n : Int}

/-- The setup cell is built for the execution, unless that has been done. -/
theorem ensureSetup_assures {r : Request} (solid : trim config.setupSource ≠ "")
    (h : s.Executes config calm c n past) :
    (s.ensureSetup r c).Assures (Relied calm) (fun past => Told calm (story past))
      (fun x past => x.1.Idle config calm past ∧
        (x.2 = .value () → x.1.setupBuilt = true ∧ x.1.Executes config calm c n past)) past := by
  unfold ensureSetup
  split
  · rename_i ready
    exact ⟨h.keeps.idle ready, fun _ => ⟨ready, h⟩⟩
  · rename_i due
    have due : s.setupBuilt = false := by simpa using due
    split
    · rename_i blank
      rw [h.keeps.setup] at blank
      exact absurd blank solid
    · refine h.silent trivial fun _ past h => ?_
      intro past' x passes _ _
      obtain ⟨idle, ready⟩ := (Executes.framed _ _ passes.unnoted h).compilesSetup (x := x) due
      refine ⟨idle.keeps.told, ?_⟩
      cases x with
      | failed e =>
        rw [show Outcome.isValue (.failed e : Outcome Artifact) = false from rfl,
          setupBuilt_eq due] at idle
        exact ⟨idle, by simp⟩
      | crashed m =>
        rw [show Outcome.isValue (.crashed m : Outcome Artifact) = false from rfl,
          setupBuilt_eq due] at idle
        exact ⟨idle, by simp⟩
      | value artifact =>
        refine (ready rfl).silent trivial fun _ past h => ?_
        exact ⟨h.keeps.idle rfl, fun _ => ⟨rfl, h⟩⟩

/-- Compiling and running the cell that was submitted. -/
theorem compileAndRun_assures {r : Request} {cell : Cell} (h : s.Executes config calm c n past)
    (ready : s.setupBuilt = true) (number : cell.sequence = n) :
    (compileAndRun r c cell).Assures (Relied calm) (fun past => Told calm (story past))
      (fun _ past => s.Idle config calm past) past := by
  unfold compileAndRun
  split
  · exact h.keeps.idle ready
  · refine h.silent trivial fun _ past h => ?_
    intro past' x passes _ _
    have idle := (Executes.framed _ _ passes.unnoted h).compiles (x := x) ready number
    refine ⟨idle.keeps.told, ?_⟩
    cases x with
    | failed e => exact idle
    | crashed m => exact idle
    | value artifact =>
      refine idle.silent trivial fun _ past h => ?_
      exact h.silent trivial fun _ past h => h

theorem build_assures {r : Request} {cell : Cell} (solid : trim config.setupSource ≠ "")
    (h : s.Executes config calm c n past) (number : cell.sequence = n) :
    (s.build r c cell).Assures (Relied calm) (fun past => Told calm (story past))
      (fun x past => x.1.Idle config calm past) past := by
  refine (ensureSetup_assures solid h).bind fun x past after => ?_
  obtain ⟨t, o⟩ := x
  cases o with
  | failed e => exact after.1
  | crashed m => exact after.1
  | value _ =>
    obtain ⟨ready, executes⟩ := after.2 rfl
    exact (compileAndRun_assures executes ready number).bind fun _ past idle => idle

theorem reply_silent {r : Request} {p : Payload} (t : Session) :
    ((reply r p).bind fun _ => .done (t, (.ok () : Verdict))).Within Silent fun x => t.Like x.1 :=
  ⟨trivial, fun _ => .refl t⟩

theorem reportFailure_silent (r : Request) (n : Int) (e : ErrorContent) :
    (reportFailure r n e).Within Silent fun _ => True :=
  ⟨trivial, fun _ => ⟨trivial, fun _ => trivial⟩⟩

theorem abandon_silent (s : Session) (r : Request) (e : KernelError) :
    (s.abandon r e).Within Silent s.Like := by
  unfold abandon
  cases s.owed with
  | none => exact .refl s
  | some n => exact (reportFailure_silent r n _).bind fun _ _ => ⟨rfl, rfl, le_rfl, rfl, rfl⟩

theorem execute_assures {r : Request} {code : String} (solid : trim config.setupSource ≠ "")
    (h : s.Idle config calm past) :
    (s.execute r code).Assures (Relied calm) (fun past => Told calm (story past))
      (fun x past => x.1.Idle config calm past) past := by
  refine (lease_assures h).bind fun x past leased => ?_
  obtain ⟨t, tooling⟩ := x
  cases tooling with
  | none => exact leased.1.rest (reply_silent t)
  | some c =>
    let u : Session := { t with cells := t.cells.update code }
    have like : t.Like u := ⟨rfl, by simp [u], by simp [u], rfl, rfl⟩
    have idle : u.Idle config calm past := ⟨leased.1.keeps.like like, leased.1.paid⟩
    have uses : u.Uses calm c u.cells.current.sequence past := by
      rw [show u.cells.current.sequence = t.cells.current.sequence by simp [u]]
      exact (leased.2 c rfl).like like
    let v : Session := { u with cells := u.cells.submit.2, owed := some u.cells.current.sequence }
    have rose : u.cells.current.sequence < v.cells.current.sequence := Int.lt_succ _
    have submits : u.Like v := ⟨rfl, rfl, rose.le, rfl, rfl⟩
    intro past' x passes _ _
    obtain ⟨keeps, uses⟩ := Uses.framed _ _ passes.unnoted ⟨idle.keeps, uses⟩
    have idle := Idle.framed _ _ passes.unnoted idle
    have accepted := idle.accepts r code x uses submits rose
    refine ⟨accepted.keeps.told, ?_⟩
    refine Assures.bind (j := v.build r c u.cells.current) (build_assures solid accepted rfl)
      fun y past idle => ?_
    obtain ⟨w, o⟩ := y
    cases o with
    | value data =>
      exact idle.rest ⟨trivial, fun _ => ⟨trivial, fun _ => ⟨rfl, rfl, le_rfl, rfl, rfl⟩⟩⟩
    | failed e =>
      exact idle.rest ((reportFailure_silent r _ _).bind fun _ _ => ⟨rfl, rfl, le_rfl, rfl, rfl⟩)
    | crashed m => exact idle.rest ((abandon_silent w r _).bind fun _ like => like)

theorem Edited.like (h : s.Edited t) : s.Like t := by
  cases h with
  | same => exact .refl s
  | update text => exact ⟨rfl, by simp, by simp, rfl, rfl⟩

/-- A question is not noted, if its calls are not. -/
theorem Asks.assures {r : Request} {q : Question} {ask : Session → Job (Session × Verdict)}
    (asks : Asks r q ask) (silent : ∀ l cell, Silent (.call (q.call l cell)))
    (h : s.Idle config calm past) :
    (ask s).Assures (Relied calm) (fun past => Told calm (story past))
      (fun x past => x.1.Idle config calm past) past := by
  obtain ⟨j, same, rest⟩ := asks.edits Silent silent trivial fun _ _ _ _ _ => trivial
  rw [same]
  refine (lease_assures h).bind fun x past leased => leased.1.rest ?_
  exact (rest x).mono (fun _ => id) fun y edited => edited.1.like

/-- The session looks up the generation after a restart. -/
theorem restart_assures {r : Request} (h : s.Idle config calm past) :
    (restartTooling .shell r s.sync).Assures (Relied calm) (fun past => Told calm (story past))
      (fun t past => t.Idle config calm past) past := by
  refine h.silent trivial fun o past h => ?_
  refine Assures.bind (j := s.sync) (sync_assures h) fun t past idle => ?_
  exact idle.silent trivial fun _ past idle => idle

theorem serve_assures {r : Request} {service : Service} (solid : trim config.setupSource ≠ "")
    (h : s.Idle config calm past) :
    (s.serve r service).Assures (Relied calm) (fun past => Told calm (story past))
      (fun x past => x.1.Idle config calm past) past := by
  cases service with
  | kernelInfo => exact h.rest (reply_silent s)
  | history => exact h.rest (reply_silent s)
  | execute =>
    cases content : r.content with
    | execute code =>
      simp only [serve, content]
      exact execute_assures solid h
    | _ => simpa [serve, content, Assures] using h
  | complete =>
    cases content : r.content with
    | complete code cursor =>
      simp only [serve, content]
      exact (complete_asks r code cursor).assures (fun _ _ => trivial) h
    | _ => simpa [serve, content, Assures] using h
  | inspect =>
    cases content : r.content with
    | inspect code cursor detail =>
      simp only [serve, content]
      exact (inspect_asks r code cursor).assures (fun _ _ => trivial) h
    | _ => simpa [serve, content, Assures] using h
  | shutdown =>
    cases content : r.content with
    | shutdown again =>
      cases again with
      | true =>
        simp only [serve, content]
        exact (restart_assures h).bind fun _ past idle => idle
      | false =>
        simp only [serve, content]
        refine h.rest (Within.bind (?_ : Within Silent (fun _ => True) _) fun _ _ => .refl s)
        refine ⟨trivial, fun o => ?_⟩
        cases o with
        | crashed m => trivial
        | stopped => exact ⟨trivial, fun _ => ⟨trivial, fun _ => trivial⟩⟩
    | _ => simpa [serve, content, Assures] using h

theorem process_assures {r : Request} (solid : trim config.setupSource ≠ "")
    (h : s.Idle config calm past) :
    (s.process r).Assures (Relied calm) (fun past => Told calm (story past))
      (fun x past => x.1.Idle config calm past) past := by
  refine (sync_assures h).bind fun t past idle => ?_
  cases Service.find? .shell r.msgType with
  | none => exact idle
  | some service =>
    refine idle.silent trivial fun _ past idle => ?_
    refine Assures.bind (j := t.serve r service) (serve_assures solid idle) fun x past idle => ?_
    exact idle.silent trivial fun _ past idle => idle

end Session

/-- What the shell keeps from request to request. -/
theorem upholds (config : KernelConfig) (calm : Prop) (solid : trim config.setupSource ≠ "") :
    Upholds config (Relied calm) (fun past => Told calm (story past))
      fun s past => s.Idle config calm past where
  start := by
    refine ⟨⟨.nothing, rfl, rfl, le_rfl, le_rfl, ?_, ?_, ?_, ?_, ?_⟩, ?_⟩
    · simp [story]
    · simp [story]
    · intro _ built
      cases built
    · simp [story]
    · intro unsettled
      exact absurd rfl unsettled
    · exact Debt.noConfusion
  lasts _ := Session.Idle.framed.lasts
  begins s r past idle := Session.Idle.framed _ _ ⟨by simp, by simp⟩ idle
  ends s r v past idle := idle.serves
  well _ _ idle := idle.keeps.told
  stays past past' passes told := by
    have same := passes.unnoted.story
    change Told calm (story past')
    rwa [same]
  serves _ _ _ idle _ := Session.process_assures solid idle

namespace Kernel

variable {σ : Type}

/-- What the journal tells of compilations. -/
def compilations (k : Kernel σ) : List Remark := story (recorded k.journal)

/-- The setup cell under every schedule, if it is not blank and the tooling starts a session of its
own whenever it is asked. A session compiles it no more once it has built it. If it fails, the next
execution that is accepted begins with it again. The cells of users that a session compiles have
rising numbers, and they come after the setup cell, unless a session became live just when the
shell had been given another one and was about to look up its generation. -/
theorem setup_before_cells (config : KernelConfig) (backend : Backend σ) (tooling : σ)
    (obedient : Bool) (moves : List (Move σ)) (solid : trim config.setupSource ≠ "")
    (fresh : ((new config backend tooling obedient).play moves).traffic.started.Nodup) :
    let k₀ := new config backend tooling obedient
    let remarks := (k₀.play moves).compilations
    (steady (k₀.chronicle moves) = true → SetUpFirst remarks) ∧ SetUpOnce remarks ∧
      SetUpAgain remarks ∧ Rising remarks := by
  intro k₀ remarks
  let calm : Prop := steady (k₀.chronicle moves) = true
  have relied : Relied calm (k₀.chronicle moves) := by
    refine ⟨?_, id⟩
    rw [installedIn_chronicle]
    exact installs_nodup config backend tooling obedient moves fresh
  have told : Told calm remarks := by
    have assured := (upholds config calm solid).play Relied.earlier backend tooling obedient moves
      relied
    have same := recorded_journal config backend tooling obedient moves
    rwa [← story_filter, ← same] at assured
  exact ⟨told.setUpFirst, told.setUpOnce, told.setUpAgain, told.rising⟩

/-- A kernel with a setup cell, and scripted tooling that does not fail. -/
def prepared : Kernel Script :=
  new { KernelConfig.standard with setupSource := "use prelude" } Script.backend {} true

def submission : Message :=
  ⟨[], ⟨"1", "", "", "", "execute_request", ""⟩, none, [], .object [("code", .string "x")], []⟩

/-- A strand goes on by itself for a number of steps. -/
def goes (steps i : Nat) : List (Move Script) := List.replicate steps (.go i)

/-- The tooling is started, and then a cell is submitted and served. -/
def startedFirst : List (Move Script) :=
  .restart 0 :: goes 1 0 ++ goes 7 1 ++ goes 2 0 ++
    [.arrive .shell submission, .look .shell] ++ goes 20 0

theorem setup_before_first_cell :
    let remarks := (prepared.play startedFirst).compilations
    (∃ setup cell, remarks = [.accepted 0, .compiled 1 setup true, .compiled 1 cell true, .served] ∧
      setup.isSetup = true ∧ cell.isSetup = false) ∧
    SetUpFirst remarks ∧ SetUpOnce remarks ∧ SetUpAgain remarks ∧ Rising remarks := by
  intro remarks
  have solid : trim "use prelude" ≠ "" := by decide
  have fresh : (prepared.play startedFirst).traffic.started = [1] := rfl
  have told := setup_before_cells { KernelConfig.standard with setupSource := "use prelude" }
    Script.backend {} true startedFirst solid (fresh ▸ List.nodup_singleton 1)
  exact ⟨⟨_, _, rfl, rfl, rfl⟩, told.1 rfl, told.2⟩

/-- Two cells are submitted. The execution of the first has begun when the tooling is started, is
given that session, and has yet to look up the generation when the tooling is restarted. -/
def restartedBetween : List (Move Script) :=
  [.arrive .shell submission, .arrive .shell submission, .look .shell] ++ goes 2 0 ++
    .restart 0 :: goes 1 1 ++ goes 5 2 ++ goes 1 0 ++ goes 2 2 ++
    .restart 1 :: goes 1 2 ++ goes 6 3 ++ goes 13 0 ++ goes 7 3

set_option maxRecDepth 2000 in
/-- The setup cell and the first cell are compiled on the first session, and the second cell on
the second session, on which the setup cell has not been. -/
theorem setup_skipped :
    let remarks := (prepared.play restartedBetween).compilations
    trim prepared.config.setupSource ≠ "" ∧
      (prepared.play restartedBetween).traffic.started.Nodup ∧
      (∃ setup first second, remarks = [.accepted 0, .compiled 1 setup true, .compiled 1 first true,
          .served, .accepted 1, .compiled 2 second true] ∧
        setup.isSetup = true ∧ first.isSetup = false ∧ second.isSetup = false) ∧
      ¬SetUpFirst remarks := by
  intro remarks
  have told : ∃ setup first second, remarks = [.accepted 0, .compiled 1 setup true,
      .compiled 1 first true, .served, .accepted 1, .compiled 2 second true] ∧
      setup.isSetup = true ∧ first.isSetup = false ∧ second.isSetup = false :=
    ⟨_, _, _, rfl, rfl, rfl, rfl⟩
  refine ⟨by decide, by decide, told, fun ordered => ?_⟩
  clear_value remarks
  obtain ⟨setup, first, second, rfl, _, _, user⟩ := told
  have built := ordered [.accepted 0, .compiled 1 setup true, .compiled 1 first true, .served,
    .accepted 1] 2 second true [] rfl user
  simp [setups, Remark.setup?] at built

end Kernel

end NotebookKernel
