import NotebookKernel.Proofs.Tenure

/-!
# A restart is a complete reset

A restart that succeeds between two requests of the shell, whoever asked for it, leaves nothing of
what the shell has done before. However the kernel came to be, it serves all later requests as a
kernel does that has just been started for the first time: with the same messages and the same
calls in the same order, if its tooling gives the same answers.
-/

namespace NotebookKernel

open Job

theorem Session.Expired.adopt_later {config : KernelConfig} {n g : Nat} {s : Session}
    (h : s.Expired config n) (later : n < g) :
    s.adopt g = { s with cells := emptyCells config, generation := g, setupBuilt := false } := by
  unfold Session.adopt
  split
  · rename_i present
    rcases h.blank with old | ⟨cells, setup⟩
    · omega
    · rw [← cells, ← setup, ← present]
  · rw [h.configured]

/-- The first numbers are so much larger. -/
def Numbering.ahead (e : Nat) : Numbering where
  pairs g g' := g = g' + e
  exact := by
    rintro g g' n n' rfl rfl
    omega

/-- The request that the shell begins. -/
def Event.shellBegun? : Event → Option Request
  | .begun .shell r => some r
  | _ => none

variable {σ τ : Type}

/-- Two kernels that are alike, but for so many more sessions that became live in the first, and
remember the same from now on. -/
def Likeness.later {same : SessionId → SessionId → Prop} {limit : Duration} {worlds : σ → τ → Prop}
    {backend : Backend σ} {backend' : Backend τ} (e : Nat) (past past' : List Event)
    (answers : AnswerAlike same limit worlds (fun _ => True) backend backend') :
    Likeness σ τ where
  limit := limit
  num := .ahead e
  onwards := by
    rintro g g' rfl
    simp only [Numbering.ahead]
    omega
  same := same
  worlds := worlds
  calls := fun _ => True
  backend := backend
  backend' := backend'
  answers := answers
  journals js js' := ∃ es es', js = past ++ es ∧ js' = past' ++ es' ∧
    List.Forall₂ (Event.Like same limit) es es'
  written := by
    rintro _ _ e e' ⟨es, es', rfl, rfl, told⟩ like
    exact ⟨es ++ [e], es' ++ [e'], by simp, by simp, List.rel_append told (.cons like .nil)⟩

namespace Kernel

/-- The kernel runs, and nothing is going on. -/
structure Ready (k : Kernel σ) : Prop where
  quiet : k.Quiet
  running : k.supervisor.lifecycle = .running

/-- A running kernel in which nothing is going on has no flight to join. -/
theorem Ready.free {k : Kernel σ} (h : k.Ready) (proper : k.Proper) :
    k.supervisor.pending = none := by
  cases pending : k.supervisor.pending with
  | none => rfl
  | some f =>
    have landed : f ∉ k.traffic.flights.map Prod.fst := by
      simp [traffic, trafficOf, h.quiet.strands]
    obtain ⟨target, aim, _, there⟩ := proper.regular.sound.lost f pending landed
    have running : k.traffic.supervisor.lifecycle = .running := h.running
    rw [running] at there
    rcases aim with rfl | rfl <;> simp at there

/-- A kernel that has been restarted since its session was in use goes along with one that has just
been started. -/
theorem Ready.abreast {same : SessionId → SessionId → Prop} {worlds : σ → τ → Prop}
    {config : KernelConfig} {n : Nat} {j : Kernel σ} {f : Kernel τ} (ready : j.Ready)
    (ready' : f.Ready) (proper : j.Proper) (proper' : f.Proper)
    (answers : AnswerAlike same config.disposeTimeout worlds (fun _ => True) j.backend f.backend)
    (configured : j.config = config) (configured' : f.config = config)
    (expired : j.session.Expired config n) (renewed : n < j.supervisor.generation)
    (blank : f.session = .new config) (once : f.supervisor.generation = 1)
    (alike : worlds j.tooling f.tooling)
    (live : Option.Rel same j.supervisor.session f.supervisor.session) :
    (Likeness.later (j.supervisor.generation - 1) j.journal f.journal answers).Abreast config
      j.core f.core := by
  have numbered : j.supervisor.generation = 1 + (j.supervisor.generation - 1) := by omega
  refine ⟨⟨j.supervisor.flights, f.supervisor.flights, ?_⟩, ?_⟩
  · refine ⟨congrArg _ configured, congrArg _ configured', rfl, rfl, alike, ?_, ?_, ?_⟩
    · refine ⟨ready.running.trans ready'.running.symm, live, ?_,
        Or.inl ⟨ready.free proper, ready'.free proper'⟩⟩
      change j.supervisor.generation = f.supervisor.generation + (j.supervisor.generation - 1)
      rw [once]
      exact numbered
    · intro o o' landed _
      exact absurd rfl (Nat.ne_of_lt (proper.regular.attended.landed _ landed).1)
    · exact ⟨[], [], by simp [core], by simp [core], .nil⟩
  · -- the session will be renewed before the next request
    change (j.session.adopt j.supervisor.generation).Similar config
      (.ahead (j.supervisor.generation - 1)) (f.session.adopt f.supervisor.generation)
    rw [expired.adopt_later renewed, blank, once]
    exact ⟨expired.configured, rfl, (Session.emptyCells_made config).like, numbered, rfl⟩

/-- After a restart between two requests of the shell, the shell does what it does in a kernel that
has just been started. -/
theorem restart_resets (config : KernelConfig) (backend : Backend σ) (tooling : σ)
    (backend' : Backend τ) (tooling' : τ) (obedient obedient' : Bool)
    (past during later : List (Move σ)) (first later' : List (Move τ))
    (same : SessionId → SessionId → Prop) (worlds : σ → τ → Prop) :
    let k := (new config backend tooling obedient).play past
    let j := k.play during
    let f := (new config backend' tooling' obedient').play first
    -- between requests sessions become live, and the shell serves nothing but restarts
    k.shell.busy = false → k.supervisor.generation < j.supervisor.generation →
    (∀ r, .begun .shell r ∈ j.journal.drop k.journal.length → r.Restarts) → j.Ready →
    -- the other kernel has served nothing since its first start
    f.Ready → f.supervisor.generation = 1 → f.session = .new config →
    -- the tooling of both gives the same answers
    AnswerAlike same config.disposeTimeout worlds (fun _ => True) backend backend' →
    worlds j.tooling f.tooling → Option.Rel same j.supervisor.session f.supervisor.session →
    -- the same requests are served
    (∀ m ∈ later, m.OfShell) → (∀ m ∈ later', m.OfShell) → j.awaiting later = f.awaiting later' →
    (j.play later).Drained → (f.play later').Drained →
    List.Forall₂ (Event.Like same config.disposeTimeout)
      ((j.play later).journal.drop j.journal.length)
      ((f.play later').journal.drop f.journal.length) := by
  intro k j f free renewed only ready ready' once blank answers alike live own own' asked done done'
  have proper : j.Proper := ((new_proper config backend tooling obedient).play past).play during
  have proper' : f.Proper := (new_proper config backend' tooling' obedient').play first
  have configured : j.config = config := by
    have always := play_config (new_orderly config backend tooling obedient) (past ++ during)
    rwa [play_append] at always
  have configured' : f.config = config :=
    play_config (new_orderly config backend' tooling' obedient') first
  have expired := play_expired config backend tooling obedient rfl free ready.quiet.free only
  have tooled : j.backend = backend := (play_backend k during).trans (play_backend _ past)
  have tooled' : f.backend = backend' := play_backend _ first
  rw [← tooled, ← tooled'] at answers
  have abreast := ready.abreast ready' proper proper' answers configured configured' expired renewed
    blank once alike live
  have served := play_serves proper ready.quiet later own done
  have served' := play_serves proper' ready'.quiet later' own' done'
  rw [← asked] at served'
  obtain ⟨⟨_, _, holds⟩, _⟩ := served.alike served' abreast fun r _ service _ => service.calls_any
  obtain ⟨es, es', grown, grown', told⟩ := holds.journal
  rw [show (j.play later).journal = j.journal ++ es from grown,
    show (f.play later').journal = f.journal ++ es' from grown', List.drop_left, List.drop_left]
  exact told

/-- Tooling that never fails and has nothing to offer. Its world is the number of sessions that it
has started. -/
def plainTooling : Backend Nat
  | .start, n => (.now (.value (n + 1)), n + 1)
  | .compile _ cell, n => (.now (.value ⟨cell.sequence, "Cell", none⟩), n)
  | .run _ _, n => (.now (.value []), n)
  | .complete _ _ _, n => (.now (.value []), n)
  | .inspect _ _ _, n => (.now (.value none), n)
  | .dispose _, n => (.now (.value ()), n)
  | .kill _, n => (.now (), n)

/-- One more than the other, be it a name of a session or a count of them. -/
@[reducible] def OneMore (n n' : Nat) : Prop := n = n' + 1

theorem plainTooling_alike (limit : Duration) :
    AnswerAlike OneMore limit OneMore (fun _ => True) plainTooling plainTooling := by
  rintro c c' n _ like - rfl
  cases like with
  | start => exact ⟨.started rfl, rfl⟩
  | compile h cell => exact ⟨.compile h cell _, rfl⟩
  | run h artifact => exact ⟨.run h artifact _, rfl⟩
  | complete h cell span => exact ⟨.complete h cell span _, rfl⟩
  | inspect h cell span => exact ⟨.inspect h cell span _, rfl⟩
  | dispose h => exact ⟨.dispose h _, rfl⟩
  | kill h => exact ⟨.kill h _, rfl⟩

def plainKernel : Kernel Nat := new .standard plainTooling 0 true

/-- A front-end asks to execute `x`. -/
def asksForX : Message :=
  .asking "execute_request" [("code", .string "x")]

/-- A front-end asks for a restart. -/
def asksForRestart : Message :=
  .asking "shutdown_request" [("restart", .bool true)]

set_option maxRecDepth 8000 in
/-- A cell is executed before the restart and the same one after it. The second execution is told
and done as the first one of another kernel is, on the second session. -/
theorem execution_repeated :
    let j := (plainKernel.play (started ++ serving asksForX)).play (serving asksForRestart)
    let f := plainKernel.play started
    let told := (j.play (serving asksForX)).journal.drop j.journal.length
    let told' := (f.play (serving asksForX)).journal.drop f.journal.length
    j.supervisor.session = some 2 ∧ f.supervisor.session = some 1 ∧ told.length = 11 ∧
      List.Forall₂ (Event.Like OneMore KernelConfig.standard.disposeTimeout) told told' := by
  intro j f told told'
  have ready : j.Ready := ⟨⟨rfl, rfl, rfl, rfl, rfl⟩, rfl⟩
  have ready' : f.Ready := ⟨⟨rfl, rfl, rfl, rfl, rfl⟩, rfl⟩
  have own : ∀ m ∈ (serving asksForX : List (Move Nat)), m.OfShell := serving_ofShell asksForX
  have renewed : (plainKernel.play (started ++ serving asksForX)).supervisor.generation <
      j.supervisor.generation := by decide +kernel
  have session : j.supervisor.session = some 2 := by decide +kernel
  have session' : f.supervisor.session = some 1 := by decide +kernel
  have worlds : OneMore j.tooling f.tooling := by decide +kernel
  have queue : j.shell.queue = [] := rfl
  have queue' : f.shell.queue = [] := rfl
  have asked : j.awaiting (serving asksForX) = f.awaiting (serving asksForX) := by
    simp only [awaiting, queue, queue']
  have done : (j.play (serving asksForX)).Drained :=
    ⟨List.isEmpty_iff.mp (by decide +kernel), by decide +kernel⟩
  have done' : (f.play (serving asksForX)).Drained :=
    ⟨List.isEmpty_iff.mp (by decide +kernel), by decide +kernel⟩
  have free : (plainKernel.play (started ++ serving asksForX)).shell.busy = false := by
    decide +kernel
  have once : f.supervisor.generation = 1 := by decide +kernel
  have blank : f.session = .new .standard := rfl
  have count : told.length = 11 := by decide +kernel
  have only : ∀ r, .begun .shell r ∈ j.journal.drop
      (plainKernel.play (started ++ serving asksForX)).journal.length → r.Restarts := by
    have began : (j.journal.drop (plainKernel.play (started ++ serving asksForX)).journal.length
      ).filterMap Event.shellBegun? = [⟨[], asksForRestart.header, [], .shutdown true⟩] := rfl
    intro r member
    have told := List.mem_filterMap.mpr ⟨_, member, (rfl : Event.shellBegun? (.begun .shell r) = _)⟩
    rw [began, List.mem_singleton] at told
    rw [told]
    exact ⟨rfl, rfl⟩
  have live : Option.Rel OneMore j.supervisor.session f.supervisor.session := by
    rw [session, session']
    exact .some rfl
  exact ⟨session, session', count, restart_resets .standard plainTooling 0 plainTooling 0 true true
    (started ++ serving asksForX) (serving asksForRestart) (serving asksForX) started
    (serving asksForX) OneMore OneMore free renewed only ready ready' once blank
    (plainTooling_alike _) worlds live own own asked done done'⟩

end Kernel

end NotebookKernel
