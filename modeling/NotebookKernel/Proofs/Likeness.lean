import NotebookKernel.Proofs.Solo

/-!
# Two kernels side by side

Two kernels are alike when they differ in nothing but how many sessions have become live so far
and in the names of these sessions, and when the tooling of both answers the same calls with the
same answers. Whatever jobs the two shells then do that are alike, they do the same, and are alike
when they are done.
-/

namespace NotebookKernel

open Job

/-- Which number of a session in one kernel stands for which one in the other. -/
structure Numbering where
  pairs : Nat → Nat → Prop
  exact : ∀ {g g' n n'}, pairs g g' → pairs n n' → (g = n ↔ g' = n')

section Alikeness

variable (num : Numbering) (same : SessionId → SessionId → Prop)

/-- The same call, but for the name of the session. -/
inductive ToolingCall.Like : ToolingCall → ToolingCall → Prop
  | start : Like .start .start
  | compile {c c' : SessionId} (h : same c c') (cell : Cell) :
      Like (.compile c cell) (.compile c' cell)
  | run {c c' : SessionId} (h : same c c') (artifact : Artifact) :
      Like (.run c artifact) (.run c' artifact)
  | complete {c c' : SessionId} (h : same c c') (cell : Cell) (span : TokenSpan) :
      Like (.complete c cell span) (.complete c' cell span)
  | inspect {c c' : SessionId} (h : same c c') (cell : Cell) (span : TokenSpan) :
      Like (.inspect c cell span) (.inspect c' cell span)
  | dispose {c c' : SessionId} (h : same c c') : Like (.dispose c) (.dispose c')
  | kill {c c' : SessionId} (h : same c c') : Like (.kill c) (.kill c')

/-- The same call with the same answer, but for the names of sessions. -/
inductive Echoes : (c : ToolingCall) → c.Answer → (c' : ToolingCall) → c'.Answer → Prop
  | started {c c' : SessionId} (h : same c c') : Echoes .start (.value c) .start (.value c')
  | failed (e : ToolingError) : Echoes .start (.failed e) .start (.failed e)
  | crashed (m : Option String) : Echoes .start (.crashed m) .start (.crashed m)
  | compile {c c' : SessionId} (h : same c c') (cell : Cell) (x : Outcome Artifact) :
      Echoes (.compile c cell) x (.compile c' cell) x
  | run {c c' : SessionId} (h : same c c') (artifact : Artifact) (x : Outcome Json.Dict) :
      Echoes (.run c artifact) x (.run c' artifact) x
  | complete {c c' : SessionId} (h : same c c') (cell : Cell) (span : TokenSpan)
      (x : Outcome (List String)) : Echoes (.complete c cell span) x (.complete c' cell span) x
  | inspect {c c' : SessionId} (h : same c c') (cell : Cell) (span : TokenSpan)
      (x : Outcome (Option String)) : Echoes (.inspect c cell span) x (.inspect c' cell span) x
  | dispose {c c' : SessionId} (h : same c c') (x : Outcome Unit) :
      Echoes (.dispose c) x (.dispose c') x
  | kill {c c' : SessionId} (h : same c c') (x : Unit) : Echoes (.kill c) x (.kill c') x

/-- The same event of the shell, but for the names of sessions. -/
inductive Event.Like (limit : Duration) : Event → Event → Prop
  | begun (loop : RequestChannel) (r : Request) : Like limit (.begun loop r) (.begun loop r)
  | sent (loop : Option RequestChannel) (e : Emission) : Like limit (.sent loop e) (.sent loop e)
  | served (loop : RequestChannel) (r : Request) (v : Verdict) :
      Like limit (.served loop r v) (.served loop r v)
  | called {c c' : ToolingCall} {t : Timed c.Answer} {t' : Timed c'.Answer}
      (h : Echoes same c (c.heard limit t).answer c' (c'.heard limit t').answer) :
      Like limit (.called c t) (.called c' t')

/-- Calls that are alike are answered alike, in worlds that are alike, and the worlds stay so. -/
def AnswerAlike {σ τ : Type} (limit : Duration) (worlds : σ → τ → Prop)
    (calls : ToolingCall → Prop) (backend : Backend σ) (backend' : Backend τ) : Prop :=
  ∀ c c' w w', c.Like same c' → calls c → worlds w w' →
    Echoes same c (c.heard limit (backend c w).1).answer c'
        (c'.heard limit (backend' c' w').1).answer ∧
      worlds (backend c w).2 (backend' c' w').2

/-- The same outcome, whatever the number of the session. -/
inductive FlightOutcome.Like : FlightOutcome → FlightOutcome → Prop
  | ok (g g' : Nat) : Like (.ok g) (.ok g')
  | error (e : ToolingError) : Like (.error e) (.error e)

/-- The same action, but for the name of the session. -/
inductive Action.Like : Action → Action → Prop
  | generation : Like .generation .generation
  | lease : Like .lease .lease
  | restart : Like .restart .restart
  | stop : Like .stop .stop
  | call {c c' : ToolingCall} (h : c.Like same c') : Like (.call c) (.call c')
  | emit (e : Emission) : Like (.emit e) (.emit e)
  | leave : Like .leave .leave

/-- The same action with the same answer, but for the names and the numbers of sessions. -/
inductive Occurrence.Like : Occurrence → Occurrence → Prop
  | generation {g g' : Nat} (h : num.pairs g g') : Like ⟨.generation, g⟩ ⟨.generation, g'⟩
  | unleased : Like ⟨.lease, none⟩ ⟨.lease, none⟩
  | leased {c c' : SessionId} {g g' : Nat} (h : same c c') (number : num.pairs g g') :
      Like ⟨.lease, some ⟨c, g⟩⟩ ⟨.lease, some ⟨c', g'⟩⟩
  | restart {o o' : FlightOutcome} (h : o.Like o') : Like ⟨.restart, o⟩ ⟨.restart, o'⟩
  | stop (o : StopOutcome) : Like ⟨.stop, o⟩ ⟨.stop, o⟩
  | call {c c' : ToolingCall} {x : c.Answer} {x' : c'.Answer} (h : Echoes same c x c' x') :
      Like ⟨.call c, x⟩ ⟨.call c', x'⟩
  | emit (e : Emission) : Like ⟨.emit e, ()⟩ ⟨.emit e, ()⟩
  | leave : Like ⟨.leave, ()⟩ ⟨.leave, ()⟩

/-- The action makes only such calls, by itself or by a flight or a stop. -/
def Action.Calls (calls : ToolingCall → Prop) : Action → Prop
  | .call c => calls c
  | .restart => calls .start ∧ ∀ c, calls (.dispose c) ∧ calls (.kill c)
  | .stop => ∀ c, calls (.dispose c) ∧ calls (.kill c)
  | _ => True

/-- As long as they are answered alike, the jobs act alike, and their results are related. -/
inductive Job.Alike {α β : Type} (calls : ToolingCall → Prop) (R : α → β → Prop) :
    Job α → Job β → Prop
  | done {a : α} {b : β} (h : R a b) : Alike calls R (.done a) (.done b)
  | act {a b : Action} {next : a.Answer → Job α} {next' : b.Answer → Job β}
      (like : a.Like same b) (may : a.Calls calls)
      (rest : ∀ x y, Occurrence.Like num same ⟨a, x⟩ ⟨b, y⟩ → Alike calls R (next x) (next' y)) :
      Alike calls R (.act a next) (.act b next')

/-- The same state, but for the names and the numbers of sessions. If there is a flight to join,
it is one of the two given. -/
structure Supervisor.Like (f f' : FlightId) (s s' : Supervisor) : Prop where
  lifecycle : s.lifecycle = s'.lifecycle
  session : Option.Rel same s.session s'.session
  generation : num.pairs s.generation s'.generation
  pending : (s.pending = none ∧ s'.pending = none) ∨ (s.pending = some f ∧ s'.pending = some f')

/-- What two turns do alike leads to phases that are related. -/
inductive Turn.Like {φ : Type} (calls : ToolingCall → Prop) (f f' : FlightId) (P : φ → φ → Prop) :
    Turn φ → Turn φ → Prop
  | locked {step step' : Supervisor → φ × Supervisor}
      (h : ∀ s s', Supervisor.Like num same f f' s s' →
        P (step s).1 (step' s').1 ∧ Supervisor.Like num same f f' (step s).2 (step' s').2) :
      Like calls f f' P (.locked step) (.locked step')
  | call {c c' : ToolingCall} {next : c.Answer → φ} {next' : c'.Answer → φ}
      (like : c.Like same c') (may : calls c)
      (h : ∀ x x', Echoes same c x c' x' → P (next x) (next' x')) :
      Like calls f f' P (.call c next) (.call c' next')
  | finished : Like calls f f' P .finished .finished

/-- As far with a session of another name. -/
inductive Retirement.Like : Retirement → Retirement → Prop
  | disposing {c c' : SessionId} (h : same c c') : Like (.disposing c) (.disposing c')
  | killing {c c' : SessionId} (h : same c c') : Like (.killing c) (.killing c')

/-- The same phase, but for the names and the numbers of sessions. -/
inductive FlightPhase.Like : FlightPhase → FlightPhase → Prop
  | opening : Like .opening .opening
  | entering (target : Lifecycle) : Like (.entering target) (.entering target)
  | taking (target : Lifecycle) : Like (.taking target) (.taking target)
  | retiring (target : Lifecycle) {old old' : Retirement} (h : old.Like same old') :
      Like (.retiring target old) (.retiring target old')
  | starting (target : Lifecycle) : Like (.starting target) (.starting target)
  | failing (e : ToolingError) : Like (.failing e) (.failing e)
  | installing (target : Lifecycle) {c c' : SessionId} (h : same c c') :
      Like (.installing target c) (.installing target c')
  | discarding {old old' : Retirement} (h : old.Like same old') :
      Like (.discarding old) (.discarding old')
  | clearing {o o' : FlightOutcome} (h : o.Like o') : Like (.clearing o) (.clearing o')
  | landed {o o' : FlightOutcome} (h : o.Like o') : Like (.landed o) (.landed o')
  | crashed (m : Option String) : Like (.crashed m) (.crashed m)

/-- The same phase, but for the name of the session. -/
inductive StopPhase.Like : StopPhase → StopPhase → Prop
  | entering : Like .entering .entering
  | retiring {old old' : Retirement} (h : old.Like same old') :
      Like (.retiring old) (.retiring old')
  | ended : Like .ended .ended
  | crashed (m : Option String) : Like (.crashed m) (.crashed m)

end Alikeness

namespace Job

variable {α β γ δ : Type} {num : Numbering} {same : SessionId → SessionId → Prop}
  {calls : ToolingCall → Prop}

theorem Alike.bind {R : α → β → Prop} {S : γ → δ → Prop} {j : Job α} {j' : Job β}
    {f : α → Job γ} {f' : β → Job δ} (h : j.Alike num same calls R j')
    (sequel : ∀ a b, R a b → (f a).Alike num same calls S (f' b)) :
    (j.bind f).Alike num same calls S (j'.bind f') := by
  induction h with
  | done related => exact sequel _ _ related
  | act like may _ ih => exact .act like may fun x y occurs => ih x y occurs

/-- Both emit the same. -/
theorem Alike.emits {R : α → β → Prop} {e : Emission} {next : Unit → Job α} {next' : Unit → Job β}
    (rest : (next ()).Alike num same calls R (next' ())) :
    (Job.act (.emit e) next).Alike num same calls R (.act (.emit e) next') :=
  .act (.emit e) trivial fun _ _ _ => rest

end Job

/-! ## Flights and stops -/

section Phases

variable {num : Numbering} {same : SessionId → SessionId → Prop} {calls : ToolingCall → Prop}
  {f f' : FlightId} {s s' : Supervisor}

theorem Supervisor.Like.move (h : s.Like num same f f' s') (target : Lifecycle) :
    (∃ e, s.move target = .error e ∧ s'.move target = .error e) ∨
      ∃ u u', s.move target = .ok u ∧ s'.move target = .ok u' ∧ u.Like num same f f' u' := by
  unfold Supervisor.move
  rw [h.lifecycle]
  cases s'.lifecycle.transition target with
  | error e => exact Or.inl ⟨e, rfl, rfl⟩
  | ok l => exact Or.inr ⟨_, _, rfl, rfl, rfl, h.session, h.generation, h.pending⟩

theorem Supervisor.Like.tryMove (h : s.Like num same f f' s') (target : Lifecycle) :
    (s.tryMove target).Like num same f f' (s'.tryMove target) := by
  unfold Supervisor.tryMove
  obtain ⟨e, first, second⟩ | ⟨u, u', first, second, like⟩ := h.move target
  · rw [first, second]
    exact h
  · rw [first, second]
    exact like

theorem Supervisor.Like.take (h : s.Like num same f f' s') :
    Option.Rel same s.take.1 s'.take.1 ∧ s.take.2.Like num same f f' s'.take.2 :=
  ⟨h.session, h.lifecycle, .none, h.generation, h.pending⟩

theorem Supervisor.Like.install (h : s.Like num same f f' s') (target : Lifecycle)
    {c c' : SessionId} (fresh : same c c')
    (onwards : ∀ {g g'}, num.pairs g g' → num.pairs (g + 1) (g' + 1)) :
    (s.install target c = (none, s) ∧ s'.install target c' = (none, s')) ∨
      (∃ g g' u u', s.install target c = (some (.ok g), u) ∧
        s'.install target c' = (some (.ok g'), u') ∧ u.Like num same f f' u') ∨
      ∃ e u u', s.install target c = (some (.error e), u) ∧
        s'.install target c' = (some (.error e), u') ∧ u.Like num same f f' u' := by
  unfold Supervisor.install
  by_cases there : s'.lifecycle = target
  · rw [if_pos (h.lifecycle.trans there), if_pos there]
    have live : Supervisor.Like num same f f'
        { s with session := some c, generation := s.generation + 1 }
        { s' with session := some c', generation := s'.generation + 1 } :=
      ⟨h.lifecycle, .some fresh, onwards h.generation, h.pending⟩
    obtain ⟨e, first, second⟩ | ⟨u, u', first, second, like⟩ := live.move .running
    · exact Or.inr (Or.inr ⟨e, _, _, by simp only [first], by simp only [second], live⟩)
    · exact Or.inr (Or.inl ⟨u.generation, u'.generation, u, u', by simp only [first],
        by simp only [second], like⟩)
  · rw [if_neg fun here => there (h.lifecycle.symm.trans here), if_neg there]
    exact Or.inl ⟨rfl, rfl⟩

/-- Retiring is done alike. -/
theorem Retirement.Like.turn {φ : Type} {P : φ → φ → Prop} {old old' : Retirement}
    {going going' : Retirement → φ} {gone gone' : φ} {crashed : Option String → φ}
    (h : old.Like same old') (closes : ∀ c, calls (.dispose c) ∧ calls (.kill c))
    (goes : ∀ r r', Retirement.Like same r r' → P (going r) (going' r')) (ends : P gone gone')
    (crashes : ∀ m, P (crashed m) (crashed m)) :
    Turn.Like num same calls f f' P (old.turn going gone crashed)
      (old'.turn going' gone' crashed) := by
  cases h with
  | disposing h =>
    refine .call (.dispose h) (closes _).1 fun x x' echoes => ?_
    cases echoes with
    | dispose _ x =>
      cases x with
      | value _ => exact ends
      | failed e => exact goes _ _ (.killing h)
      | crashed m => exact crashes m
  | killing h => exact .call (.kill h) (closes _).2 fun _ _ _ => ends

/-- Flights take their turns alike. -/
theorem FlightPhase.Like.turn {p p' : FlightPhase} (h : p.Like same p')
    (may : Action.restart.Calls calls)
    (onwards : ∀ {g g'}, num.pairs g g' → num.pairs (g + 1) (g' + 1)) :
    Turn.Like num same calls f f' (FlightPhase.Like same) p.turn p'.turn := by
  cases h with
  | opening =>
    refine .locked fun s s' like => ⟨?_, like⟩
    rw [Supervisor.flightTarget, Supervisor.flightTarget, like.lifecycle]
    exact .entering _
  | entering target =>
    refine .locked fun s s' like => ?_
    obtain ⟨e, first, second⟩ | ⟨u, u', first, second, moved⟩ := like.move target
    · simp only [first, second]
      exact ⟨.clearing (.error _), like⟩
    · simp only [first, second]
      exact ⟨.taking target, moved⟩
  | taking target =>
    refine .locked fun s s' like => ?_
    obtain ⟨old, taken⟩ := like.take
    generalize s.take = x at old taken ⊢
    generalize s'.take = x' at old taken ⊢
    obtain ⟨_ | c, u⟩ := x <;> obtain ⟨_ | c', u'⟩ := x' <;> cases old
    · exact ⟨.starting target, taken⟩
    · exact ⟨.retiring target (.disposing ‹_›), taken⟩
  | retiring target h =>
    exact h.turn may.2 (fun _ _ => .retiring target) (.starting target) .crashed
  | starting target =>
    refine .call .start may.1 fun x x' echoes => ?_
    cases echoes with
    | started h => exact .installing target h
    | failed e => exact .failing e
    | crashed m => exact .crashed m
  | failing e => exact .locked fun s s' like => ⟨.clearing (.error e), like.tryMove _⟩
  | installing target h =>
    refine .locked fun s s' like => ?_
    obtain ⟨first, second⟩ | ⟨g, g', u, u', first, second, installed⟩ |
      ⟨e, u, u', first, second, left⟩ := like.install target h onwards
    · simp only [first, second]
      exact ⟨.discarding (.disposing h), like⟩
    · simp only [first, second]
      exact ⟨.clearing (.ok g g'), installed⟩
    · simp only [first, second]
      exact ⟨.clearing (.error _), left⟩
  | discarding h =>
    exact h.turn may.2 (fun _ _ => .discarding) (.clearing (.error _)) .crashed
  | clearing h =>
    exact .locked fun s s' like =>
      ⟨.landed h, like.lifecycle, like.session, like.generation, Or.inl ⟨rfl, rfl⟩⟩
  | landed h => exact .finished
  | crashed m => exact .finished

/-- Stops take their turns alike. -/
theorem StopPhase.Like.turn {p p' : StopPhase} (h : p.Like same p')
    (may : Action.stop.Calls calls) :
    Turn.Like num same calls f f' (StopPhase.Like same) p.turn p'.turn := by
  cases h with
  | entering =>
    refine .locked fun s s' like => ?_
    obtain ⟨old, taken⟩ := (like.tryMove .stopped).take
    unfold Supervisor.stop
    generalize (s.tryMove .stopped).take = x at old taken ⊢
    generalize (s'.tryMove .stopped).take = x' at old taken ⊢
    obtain ⟨_ | c, u⟩ := x <;> obtain ⟨_ | c', u'⟩ := x' <;> cases old
    · exact ⟨.ended, taken⟩
    · exact ⟨.retiring (.disposing ‹_›), taken⟩
  | retiring h => exact h.turn may (fun _ _ => .retiring) .ended .crashed
  | ended => exact .finished
  | crashed m => exact .finished

/-- Phases that are alike end alike. -/
theorem FlightPhase.Like.outcome {p p' : FlightPhase} (h : p.Like same p')
    {o o' : FlightOutcome} (ended : p.outcome? = some o) (ended' : p'.outcome? = some o') :
    o.Like o' := by
  cases h with
  | landed h =>
    cases ended
    cases ended'
    exact h
  | crashed m =>
    cases ended
    cases ended'
    exact .error _
  | _ => cases ended

theorem FlightPhase.turn_finished {p : FlightPhase} {o : FlightOutcome}
    (ended : p.outcome? = some o) : p.turn = .finished := by
  cases p with
  | landed o => rfl
  | crashed m => rfl
  | _ => cases ended

theorem StopPhase.Like.outcome {p p' : StopPhase} (h : p.Like same p') {o o' : StopOutcome}
    (ended : p.outcome? = some o) (ended' : p'.outcome? = some o') : o = o' := by
  cases h with
  | ended =>
    cases ended
    cases ended'
    rfl
  | crashed m =>
    cases ended
    cases ended'
    rfl
  | _ => cases ended

theorem StopPhase.turn_finished {p : StopPhase} {o : StopOutcome} (ended : p.outcome? = some o) :
    p.turn = .finished := by
  cases p with
  | ended => rfl
  | crashed m => rfl
  | _ => cases ended

end Phases

/-! ## Kernels -/

/-- How two kernels are alike: by the names of their sessions and the worlds of their tooling, and
by what they remember. -/
structure Likeness (σ τ : Type) where
  limit : Duration
  num : Numbering
  onwards : ∀ {g g'}, num.pairs g g' → num.pairs (g + 1) (g' + 1)
  same : SessionId → SessionId → Prop
  worlds : σ → τ → Prop
  /-- The calls that are answered alike. -/
  calls : ToolingCall → Prop
  backend : Backend σ
  backend' : Backend τ
  answers : AnswerAlike same limit worlds calls backend backend'
  journals : List Event → List Event → Prop
  written : ∀ {es es' e e'}, journals es es' → e.Like same limit e' →
    journals (es ++ [e]) (es' ++ [e'])

variable {σ τ : Type} {L : Likeness σ τ} {f f' : FlightId}

namespace Likeness

/-- Two kernels are alike. The two flights are the ones that a restart would join, if any. -/
structure Holds (L : Likeness σ τ) (f f' : FlightId) (k : Kernel σ) (k' : Kernel τ) : Prop where
  limit : k.config.disposeTimeout = L.limit
  limit' : k'.config.disposeTimeout = L.limit
  backend : k.backend = L.backend
  backend' : k'.backend = L.backend'
  worlds : L.worlds k.tooling k'.tooling
  supervisor : Supervisor.Like L.num L.same f f' k.supervisor k'.supervisor
  landed : ∀ o o', (f, o) ∈ k.landings → (f', o') ∈ k'.landings → o.Like o'
  journal : L.journals k.journal k'.journal

namespace Holds

variable {k : Kernel σ} {k' : Kernel τ}

theorem note (h : L.Holds f f' k k') {e e' : Event} (like : e.Like L.same L.limit e') :
    L.Holds f f' (k.note e) (k'.note e') :=
  ⟨h.limit, h.limit', h.backend, h.backend', h.worlds, h.supervisor, h.landed,
    L.written h.journal like⟩

/-- The tooling is called. -/
theorem ask (h : L.Holds f f' k k') {c c' : ToolingCall} (like : c.Like L.same c')
    (may : L.calls c) :
    Echoes L.same c (k.ask c).1.answer c' (k'.ask c').1.answer ∧
      L.Holds f f' (k.ask c).2 (k'.ask c').2 := by
  obtain ⟨echoes, worlds⟩ := L.answers c c' k.tooling k'.tooling like may h.worlds
  rw [← h.backend, ← h.backend'] at echoes worlds
  have asked : L.Holds f f' { k with tooling := (k.backend c k.tooling).2 }
      { k' with tooling := (k'.backend c' k'.tooling).2 } :=
    ⟨h.limit, h.limit', h.backend, h.backend', worlds, h.supervisor, h.landed, h.journal⟩
  refine ⟨?_, asked.note (.called echoes)⟩
  have limit := h.limit
  have limit' := h.limit'
  simpa only [Kernel.ask, limit, limit'] using echoes

/-- A flight is created. -/
theorem depart (h : L.Holds f f' k k') (free : k.supervisor.pending = none)
    (free' : k'.supervisor.pending = none)
    (fresh : ∀ l ∈ k.landings, l.1 ≠ k.supervisor.flights) :
    L.Holds k.supervisor.flights k'.supervisor.flights k.departed k'.departed where
  limit := h.limit
  limit' := h.limit'
  backend := h.backend
  backend' := h.backend'
  worlds := h.worlds
  supervisor := by
    obtain ⟨lifecycle, session, generation, _⟩ := h.supervisor
    simp only [Kernel.departed, Supervisor.join, free, free']
    exact ⟨lifecycle, session, generation, Or.inr ⟨rfl, rfl⟩⟩
  landed _ _ landed _ := absurd rfl (fresh _ landed)
  journal := h.journal

/-- A flight has landed. -/
theorem arrive (h : L.Holds f f' k k') {o o' : FlightOutcome} (outcome : o.Like o')
    (fresh : ∀ l ∈ k.landings, l.1 ≠ f) (fresh' : ∀ l ∈ k'.landings, l.1 ≠ f') :
    L.Holds f f' (k.arrived f o) (k'.arrived f' o') where
  limit := h.limit
  limit' := h.limit'
  backend := h.backend
  backend' := h.backend'
  worlds := h.worlds
  supervisor := h.supervisor
  landed u u' landed landed' := by
    obtain old | new := List.mem_append.mp landed
    · exact absurd rfl (fresh _ old)
    obtain old | new' := List.mem_append.mp landed'
    · exact absurd rfl (fresh' _ old)
    cases List.mem_singleton.mp new
    cases List.mem_singleton.mp new'
    exact outcome
  journal := h.journal

end Holds

end Likeness

namespace Kernel

variable {k i : Kernel σ} {k' i' : Kernel τ}

/-- Turns are taken alike until nothing is left to do. -/
theorem Turns.alike {φ : Type} {turn : φ → Turn φ} {P : φ → φ → Prop} {p q p' q' : φ}
    (turns : ∀ p p', P p p' → Turn.Like L.num L.same L.calls f f' P (turn p) (turn p'))
    (h : Turns turn k p i q) (h' : Turns turn k' p' i' q') (like : L.Holds f f' k k')
    (start : P p p') (ended : turn q = .finished) (ended' : turn q' = .finished) :
    P q q' ∧ L.Holds f f' i i' := by
  induction h generalizing k' p' with
  | here k q =>
    have next := turns q p' start
    rw [ended] at next
    cases h' with
    | here => exact ⟨start, like⟩
    | locked taken rest =>
      rw [taken] at next
      cases next
    | call taken rest =>
      rw [taken] at next
      cases next
  | locked taken _ ih =>
    have next := turns _ _ start
    rw [taken] at next
    cases h' with
    | here =>
      rw [ended'] at next
      cases next
    | locked taken' rest =>
      rw [taken'] at next
      cases next with
      | locked step =>
        obtain ⟨phases, moved⟩ := step _ _ like.supervisor
        exact ih rest ⟨like.limit, like.limit', like.backend, like.backend', like.worlds, moved,
          like.landed, like.journal⟩ phases ended
    | call taken' rest =>
      rw [taken'] at next
      cases next
  | call taken _ ih =>
    have next := turns _ _ start
    rw [taken] at next
    cases h' with
    | here =>
      rw [ended'] at next
      cases next
    | locked taken' rest =>
      rw [taken'] at next
      cases next
    | call taken' rest =>
      rw [taken'] at next
      cases next with
      | call calls may step =>
        obtain ⟨echoes, asked⟩ := like.ask calls may
        exact ih rest asked (step _ _ echoes) ended

/-- The live session is looked up. -/
theorem lease_alike (like : L.Holds f f' k k') :
    Occurrence.Like L.num L.same ⟨.lease, k.supervisor.lease?⟩ ⟨.lease, k'.supervisor.lease?⟩ := by
  have live := like.supervisor.session
  unfold Supervisor.lease?
  rw [like.supervisor.lifecycle]
  split
  · generalize k.supervisor.session = c at live
    generalize k'.supervisor.session = c' at live
    cases live with
    | some h => exact .leased h like.supervisor.generation
    | none => exact .unleased
  · exact .unleased

/-- Stops of both end alike. -/
theorem stop_alike {o o' : StopOutcome} (h : Answers k .stop o i) (h' : Answers k' .stop o' i')
    (like : L.Holds f f' k k') (may : Action.stop.Calls L.calls) : o = o' ∧ L.Holds f f' i i' := by
  cases h with
  | stop turns ended =>
  cases h' with
  | stop turns' ended' =>
  obtain ⟨phases, stopped⟩ := turns.alike (P := StopPhase.Like L.same) (fun _ _ h => h.turn may)
    turns' like .entering (StopPhase.turn_finished ended) (StopPhase.turn_finished ended')
  exact ⟨phases.outcome ended ended', stopped⟩

/-- Restarts of both end alike. Either both wait for a flight of their own, or both join one. -/
theorem restart_alike {o o' : FlightOutcome} (h : Answers k .restart o i)
    (h' : Answers k' .restart o' i') (like : L.Holds f f' k k')
    (may : Action.restart.Calls L.calls) : o.Like o' ∧ ∃ g g', L.Holds g g' i i' := by
  rcases like.supervisor.pending with ⟨free, free'⟩ | ⟨pending, pending'⟩
  · cases h with
    | joined joins _ => simp [free] at joins
    | restart _ fresh turns ended =>
    cases h' with
    | joined joins _ => simp [free'] at joins
    | restart _ fresh' turns' ended' =>
    obtain ⟨phases, flown⟩ := turns.alike (P := FlightPhase.Like L.same)
      (fun _ _ h => h.turn may L.onwards) turns' (like.depart free free' fresh) .opening
      (FlightPhase.turn_finished ended) (FlightPhase.turn_finished ended')
    have outcome := phases.outcome ended ended'
    refine ⟨outcome, _, _, flown.arrive outcome ?_ ?_⟩
    · rw [turns.landings]
      exact fresh
    · rw [turns'.landings]
      exact fresh'
  · cases h with
    | restart free _ _ _ => simp [pending] at free
    | joined joins landed =>
    cases h' with
    | restart free _ _ _ => simp [pending'] at free
    | joined joins' landed' =>
    obtain rfl : f = _ := Option.some.inj (pending.symm.trans joins)
    obtain rfl : f' = _ := Option.some.inj (pending'.symm.trans joins')
    exact ⟨like.landed _ _ landed landed', f, f', like⟩

/-- Actions that are alike are answered alike. -/
theorem Answers.alike {a b : Action} {x : a.Answer} {y : b.Answer} (h : Answers k a x i)
    (h' : Answers k' b y i') (like : L.Holds f f' k k') (alike : a.Like L.same b)
    (may : a.Calls L.calls) :
    Occurrence.Like L.num L.same ⟨a, x⟩ ⟨b, y⟩ ∧ ∃ g g', L.Holds g g' i i' := by
  cases alike with
  | generation =>
    cases h
    cases h'
    exact ⟨.generation like.supervisor.generation, f, f', like⟩
  | lease =>
    cases h
    cases h'
    exact ⟨lease_alike like, f, f', like⟩
  | emit e =>
    cases h
    cases h'
    exact ⟨.emit e, f, f', like.note (.sent _ e)⟩
  | leave =>
    cases h
    cases h'
    exact ⟨.leave, f, f', like⟩
  | call calls =>
    cases h
    cases h'
    obtain ⟨echoes, asked⟩ := like.ask calls may
    exact ⟨.call echoes, f, f', asked⟩
  | stop =>
    obtain ⟨same, stopped⟩ := stop_alike h h' like may
    obtain rfl : x = y := same
    exact ⟨.stop _, f, f', stopped⟩
  | restart =>
    obtain ⟨outcome, left⟩ := restart_alike h h' like may
    exact ⟨.restart outcome, left⟩

/-- With like jobs to do, two shells come to ends that are related. -/
theorem Comes.alike {α β : Type} {R : α → β → Prop} {j : Job α} {j' : Job β} {a : α} {b : β}
    (h : Comes k j i (.done a)) (h' : Comes k' j' i' (.done b)) (like : L.Holds f f' k k')
    (alike : j.Alike L.num L.same L.calls R j') : R a b ∧ ∃ g g', L.Holds g g' i i' := by
  generalize ended : Job.done a = e at h
  induction h generalizing k' j' f f' with
  | here k j =>
    subst ended
    cases alike with
    | done related =>
      cases h' with
      | here => exact ⟨related, f, f', like⟩
  | act answers _ ih =>
    cases alike with
    | act acts may rest =>
      cases h' with
      | act answers' comes =>
        obtain ⟨occurs, g, g', next⟩ := answers.alike answers' like acts may
        exact ih comes next (rest _ _ occurs) ended

end Kernel

end NotebookKernel
