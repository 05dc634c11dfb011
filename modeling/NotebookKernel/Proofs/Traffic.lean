import Mathlib.Data.Multiset.AddSub
import NotebookKernel.Proofs.Strands

/-!
# Traffic around the supervisor

What concerns the supervisor: the flights and stops on their way, those who wait for a
flight, and the calls that start, close and kill sessions. `Step` says all that one move
can do to it, and the deed of the move says who did what. The order of the strands does
not matter, so they are kept as multisets.
-/

namespace NotebookKernel

/-- A call about a session as a whole, and what comes of it. -/
structure Errand where
  call : ToolingCall
  answer : Timed call.Answer

def Event.errand? : Event → Option Errand
  | called .start t => some ⟨.start, t⟩
  | called (.dispose c) t => some ⟨.dispose c, t⟩
  | called (.kill c) t => some ⟨.kill c, t⟩
  | _ => none

/-- What a strand does to the traffic. -/
inductive Deed where
  /-- A call for a restart joins a flight, and creates it if none is on its way. -/
  | joins (flight : FlightId) (created : Bool)
  /-- A call for a restart gets the outcome of its flight. -/
  | returns (flight : FlightId) (outcome : FlightOutcome)
  /-- A flight takes a step of the supervisor, from one phase to the next. -/
  | turns (flight : FlightId) (before after : FlightPhase)
  | calls (flight : FlightId) (errand : Errand)
  | lands (flight : FlightId) (outcome : FlightOutcome)
  /-- Someone calls for a stop. -/
  | stops
  /-- A stop takes its step of the supervisor. -/
  | halts
  | stopCalls (errand : Errand)
  | stopEnds (outcome : StopOutcome)

structure Traffic where
  supervisor : Supervisor
  flights : Multiset (FlightId × FlightPhase)
  stops : Multiset StopPhase
  /-- The flights that someone waits for. -/
  waiting : Multiset FlightId
  landings : List (FlightId × FlightOutcome)
  errands : List Errand

namespace Traffic

def new : Traffic := ⟨.new, 0, 0, 0, [], []⟩

/-- All that a deed can do to the traffic. A session is given a limited time to close. -/
inductive Step (limit : Duration) : Traffic → Deed → Traffic → Prop
  /-- A restart joins the flight on its way. -/
  | joins {t : Traffic} {f : FlightId} (pending : t.supervisor.pending = some f) :
      Step limit t (.joins f false) { t with waiting := f ::ₘ t.waiting }
  /-- A restart creates a flight. -/
  | creates {t : Traffic} (free : t.supervisor.pending = none) :
      Step limit t (.joins t.supervisor.flights true)
        { t with
          supervisor := { t.supervisor with
            pending := some t.supervisor.flights, flights := t.supervisor.flights + 1 }
          flights := (t.supervisor.flights, .opening) ::ₘ t.flights
          waiting := t.supervisor.flights ::ₘ t.waiting }
  /-- A flight takes a step of the supervisor. -/
  | turns {t : Traffic} {f : FlightId} {p : FlightPhase} {rest : Multiset (FlightId × FlightPhase)}
      {step : Supervisor → FlightPhase × Supervisor} (flying : t.flights = (f, p) ::ₘ rest)
      (turn : p.turn = .locked step) :
      Step limit t (.turns f p (step t.supervisor).1)
        { t with
          supervisor := (step t.supervisor).2
          flights := (f, (step t.supervisor).1) ::ₘ rest }
  /-- A flight calls the tooling. -/
  | calls {t : Traffic} {f : FlightId} {p : FlightPhase} {rest : Multiset (FlightId × FlightPhase)}
      {c : ToolingCall} {next : c.Answer → FlightPhase} (flying : t.flights = (f, p) ::ₘ rest)
      (turn : p.turn = .call c next) (x : Timed c.Answer) :
      Step limit t (.calls f ⟨c, x⟩)
        { t with
          flights := (f, next (c.heard limit x).answer) ::ₘ rest
          errands := t.errands ++ [⟨c, x⟩] }
  | lands {t : Traffic} {f : FlightId} {p : FlightPhase} {o : FlightOutcome}
      {rest : Multiset (FlightId × FlightPhase)} (flying : t.flights = (f, p) ::ₘ rest)
      (ended : p.outcome? = some o) :
      Step limit t (.lands f o) { t with flights := rest, landings := t.landings ++ [(f, o)] }
  /-- Whoever waited for a flight goes on. -/
  | leaves {t : Traffic} {f : FlightId} {o : FlightOutcome} {rest : Multiset FlightId}
      (waits : t.waiting = f ::ₘ rest) (landed : (f, o) ∈ t.landings) :
      Step limit t (.returns f o) { t with waiting := rest }
  | stops {t : Traffic} : Step limit t .stops { t with stops := .entering ::ₘ t.stops }
  /-- A stop takes a step of the supervisor. -/
  | stopTurns {t : Traffic} {p : StopPhase} {rest : Multiset StopPhase}
      {step : Supervisor → StopPhase × Supervisor} (going : t.stops = p ::ₘ rest)
      (turn : p.turn = .locked step) :
      Step limit t .halts
        { t with supervisor := (step t.supervisor).2, stops := (step t.supervisor).1 ::ₘ rest }
  /-- A stop calls the tooling. -/
  | stopCalls {t : Traffic} {p : StopPhase} {rest : Multiset StopPhase} {c : ToolingCall}
      {next : c.Answer → StopPhase} (going : t.stops = p ::ₘ rest) (turn : p.turn = .call c next)
      (x : Timed c.Answer) :
      Step limit t (.stopCalls ⟨c, x⟩)
        { t with
          stops := next (c.heard limit x).answer ::ₘ rest
          errands := t.errands ++ [⟨c, x⟩] }
  | stopEnds {t : Traffic} {p : StopPhase} {o : StopOutcome} {rest : Multiset StopPhase}
      (going : t.stops = p ::ₘ rest) (ended : p.outcome? = some o) :
      Step limit t (.stopEnds o) { t with stops := rest }

/-- A step of the traffic, or nothing where there is no deed. -/
def Follows (limit : Duration) (t : Traffic) (u : Traffic) : Option Deed → Prop
  | some d => Step limit t d u
  | none => u = t

theorem Follows.cases {limit : Duration} {t u : Traffic} {d? : Option Deed}
    (h : t.Follows limit u d?) : u = t ∨ ∃ d, d? = some d ∧ Step limit t d u := by
  cases d? with
  | none => exact Or.inl h
  | some d => exact Or.inr ⟨d, rfl, h⟩

end Traffic

namespace Work

def flight? : Work → Option (FlightId × FlightPhase)
  | .flying f p => some (f, p)
  | _ => none

def stop? : Work → Option StopPhase
  | .stopping p _ => some p
  | _ => none

def awaits? : Work → Option FlightId
  | .joined f _ => some f
  | _ => none

end Work

namespace Kernel

variable {σ : Type} {k : Kernel σ}

/-- What going on with this work does to the traffic. -/
def deedOf? (k : Kernel σ) : Work → Option Deed
  | .job (.act .restart _) => some (.joins k.supervisor.join.1 k.supervisor.join.2.1)
  | .job (.act .stop _) => some .stops
  | .job _ => none
  | .joined f _ => (k.landing? f).map (.returns f)
  | .stopping p _ =>
      match p.outcome?, p.turn with
      | some o, _ => some (.stopEnds o)
      | none, .locked _ => some .halts
      | none, .call c _ => some (.stopCalls ⟨c, (k.backend c k.tooling).1⟩)
      | none, .finished => none
  | .flying f p =>
      match p.outcome?, p.turn with
      | some o, _ => some (.lands f o)
      | none, .locked step => some (.turns f p (step k.supervisor).1)
      | none, .call c _ => some (.calls f ⟨c, (k.backend c k.tooling).1⟩)
      | none, .finished => none

/-- What a move does to the traffic. Only strands that go on do anything to it. -/
def deed? (k : Kernel σ) : Move σ → Option Deed
  | .go i => (k.strands[i]?).bind fun s => k.deedOf? s.work
  | _ => none

/-- The traffic that there would be with these strands. -/
def trafficOf (k : Kernel σ) (strands : List Strand) : Traffic where
  supervisor := k.supervisor
  flights := strands.filterMap (·.work.flight?)
  stops := strands.filterMap (·.work.stop?)
  waiting := strands.filterMap (·.work.awaits?)
  landings := k.landings
  errands := k.journal.filterMap Event.errand?

def traffic (k : Kernel σ) : Traffic := k.trafficOf k.strands

theorem trafficOf_perm {ss ts : List Strand} (h : ss.Perm ts) :
    k.trafficOf ss = k.trafficOf ts := by
  unfold trafficOf
  rw [Multiset.coe_eq_coe.mpr (h.filterMap _), Multiset.coe_eq_coe.mpr (h.filterMap _),
    Multiset.coe_eq_coe.mpr (h.filterMap _)]

/-- Jobs are no traffic. -/
theorem trafficOf_jobs {jobs : List Strand} (h : ∀ s ∈ jobs, s.work.IsJob) (ss : List Strand) :
    k.trafficOf (jobs ++ ss) = k.trafficOf ss := by
  induction jobs with
  | nil => rfl
  | cons s rest ih =>
    have rested := ih fun t ht => h t (List.mem_cons_of_mem _ ht)
    have job := h s List.mem_cons_self
    obtain ⟨wake, work, loop⟩ := s
    cases work with
    | job j => exact rested
    | joined f next => exact job.elim
    | stopping p next => exact job.elim
    | flying f p => exact job.elim

/-- What loops do on their own is no traffic. -/
theorem Feeds.traffic {j : Kernel σ} (h : k.Feeds j) (ss : List Strand) :
    j.trafficOf (j.strands ++ ss) = k.trafficOf (k.strands ++ ss) := by
  obtain ⟨jobs, began, areJobs⟩ := h.strands
  obtain ⟨es, written, loops⟩ := h.journal
  have none : es.filterMap Event.errand? = [] := by
    refine List.filterMap_eq_nil_iff.mpr fun e he => ?_
    have own := (loops e he).2
    cases e with
    | called c x => exact own.elim
    | _ => rfl
  have behind : (k.strands ++ jobs ++ ss).Perm (jobs ++ (k.strands ++ ss)) := by
    rw [← List.append_assoc]
    exact List.perm_append_comm.append_right ss
  rw [began, trafficOf_perm behind, trafficOf_jobs fun s hs => (areJobs s hs).1]
  unfold trafficOf
  have errands : j.journal.filterMap Event.errand? = k.journal.filterMap Event.errand? := by
    rw [written, List.filterMap_append, none, List.append_nil]
  rw [h.supervisor, h.landings, errands]

/-- The traffic after a step of a strand among others. -/
def Continuation.traffic (next : Continuation σ) (loop : Option RequestChannel)
    (others : List Strand) : Traffic :=
  next.2.trafficOf (next.strand loop ++ (next.2.strands ++ others))

variable {loop : Option RequestChannel} {others : List Strand} {wake : Option Nat}

theorem continued_traffic {w : Work} (bare : k.strands = []) :
    Continuation.traffic (some (wake, w), k) loop others =
      k.trafficOf (⟨wake, w, loop⟩ :: others) := by
  simp [Continuation.traffic, Continuation.strand, bare]

theorem ended_traffic (bare : k.strands = []) :
    Continuation.traffic (none, k) loop others = k.trafficOf others := by
  simp [Continuation.traffic, Continuation.strand, bare]

/-- No call about a cell is an errand. -/
theorem errand_of_aboutCells {c : ToolingCall} (h : c.aboutCells) (x : Timed c.Answer) :
    Event.errand? (.called c x) = none := by
  cases c with
  | start => exact h.elim
  | dispose s => exact h.elim
  | kill s => exact h.elim
  | _ => rfl

theorem landed_of_landing {f : FlightId} {o : FlightOutcome} (h : k.landing? f = some o) :
    (f, o) ∈ k.landings := by
  obtain ⟨⟨g, o'⟩, found, rfl⟩ := Option.map_eq_some_iff.mp h
  have same := List.find?_some found
  simp only [beq_iff_eq] at same
  subst same
  exact List.mem_of_find?_eq_some found

theorem FlightPhase.errand_of_turn {p : FlightPhase} {c : ToolingCall}
    {next : c.Answer → FlightPhase} (h : p.turn = .call c next) (x : Timed c.Answer) :
    Event.errand? (.called c x) = some ⟨c, x⟩ := by
  cases p with
  | retiring target old =>
    cases old <;> cases h <;> rfl
  | discarding old =>
    cases old <;> cases h <;> rfl
  | starting target =>
    cases h
    rfl
  | _ => cases h

theorem StopPhase.errand_of_turn {p : StopPhase} {c : ToolingCall} {next : c.Answer → StopPhase}
    (h : p.turn = .call c next) (x : Timed c.Answer) :
    Event.errand? (.called c x) = some ⟨c, x⟩ := by
  cases p with
  | retiring old => cases old <;> cases h <;> rfl
  | _ => cases h

theorem trafficOf_ask (k : Kernel σ) (c : ToolingCall) (strands : List Strand) :
    (k.ask c).2.trafficOf strands =
      { k.trafficOf strands with
        errands := (k.trafficOf strands).errands ++
          (Event.errand? (.called c (k.backend c k.tooling).1)).toList } := by
  simp only [trafficOf, ask, note_journal, List.filterMap_append, note_supervisor, note_landings]
  cases h : Event.errand? (.called c (k.backend c k.tooling).1) <;>
    simp [h]

theorem proceed_joins {f : FlightId} {next : FlightOutcome → Job Finish}
    (pending : k.supervisor.pending = some f) :
    k.proceed loop (.job (.act .restart next)) = (some (some k.now, .joined f next), k) := by
  have join : k.supervisor.join = (f, false, k.supervisor) := by simp [Supervisor.join, pending]
  simp only [proceed, act, atOnce, join, Bool.false_eq_true, if_false]

theorem proceed_creates {next : FlightOutcome → Job Finish}
    (free : k.supervisor.pending = none) :
    k.proceed loop (.job (.act .restart next)) =
      (some (some k.now, .joined k.supervisor.flights next),
        ({ k with supervisor := { k.supervisor with
            pending := some k.supervisor.flights, flights := k.supervisor.flights + 1 } }).spawn
          none (.flying k.supervisor.flights .opening)) := by
  have join : k.supervisor.join = (k.supervisor.flights, true, { k.supervisor with
      pending := some k.supervisor.flights, flights := k.supervisor.flights + 1 }) := by
    simp [Supervisor.join, free]
  simp only [proceed, act, atOnce, join, if_true]
  rfl

/-- A restart joins a flight or creates one. -/
theorem restart_traffic (bare : k.strands = []) (next : FlightOutcome → Job Finish)
    (limit : Duration) :
    (k.trafficOf (⟨wake, .job (.act .restart next), loop⟩ :: others)).Follows limit
      ((k.proceed loop (.job (.act .restart next))).traffic loop others)
      (k.deedOf? (.job (.act .restart next))) := by
  cases pending : k.supervisor.pending with
  | some f =>
    rw [proceed_joins pending, continued_traffic bare]
    simp only [deedOf?, Supervisor.join, pending]
    exact .joins pending
  | none =>
    rw [proceed_creates pending]
    simp only [Continuation.traffic, Continuation.strand, spawn_strands, bare, deedOf?,
      Supervisor.join, pending]
    exact .creates pending

/-- A turn of a flight is a step of the traffic. -/
theorem flight_traffic (bare : k.strands = []) (f : FlightId) (p : FlightPhase) :
    (k.trafficOf (⟨wake, .flying f p, loop⟩ :: others)).Follows k.config.disposeTimeout
      ((k.proceed loop (.flying f p)).traffic loop others) (k.deedOf? (.flying f p)) := by
  have flying : (k.trafficOf (⟨wake, .flying f p, loop⟩ :: others)).flights =
      (f, p) ::ₘ (k.trafficOf others).flights := rfl
  cases ended : p.outcome? with
  | some o =>
    simp only [proceed, deedOf?, ended]
    rw [ended_traffic (by exact bare)]
    exact .lands flying ended
  | none =>
    cases turn : p.turn with
    | locked step =>
      simp only [proceed, deedOf?, ended, turn, takeTurn, atOnce]
      rw [continued_traffic (by exact bare)]
      exact .turns flying turn
    | call c next =>
      simp only [proceed, deedOf?, ended, turn, takeTurn, later]
      rw [continued_traffic (by exact bare), trafficOf_ask,
        FlightPhase.errand_of_turn turn]
      exact .calls flying turn (k.backend c k.tooling).1
    | finished => exact absurd turn (FlightPhase.turn_ne_finished ended)

/-- A turn of a stop is a step of the traffic. -/
theorem stop_traffic (bare : k.strands = []) (p : StopPhase) (next : StopOutcome → Job Finish) :
    (k.trafficOf (⟨wake, .stopping p next, loop⟩ :: others)).Follows k.config.disposeTimeout
      ((k.proceed loop (.stopping p next)).traffic loop others)
      (k.deedOf? (.stopping p next)) := by
  have going : (k.trafficOf (⟨wake, .stopping p next, loop⟩ :: others)).stops =
      p ::ₘ (k.trafficOf others).stops := rfl
  cases ended : p.outcome? with
  | some o =>
    simp only [proceed, deedOf?, ended]
    rw [atOnce, continued_traffic bare]
    exact .stopEnds going ended
  | none =>
    cases turn : p.turn with
    | locked step =>
      simp only [proceed, deedOf?, ended, turn, takeTurn, atOnce]
      rw [continued_traffic (by exact bare)]
      exact .stopTurns going turn
    | call c next =>
      simp only [proceed, deedOf?, ended, turn, takeTurn, later]
      rw [continued_traffic (by exact bare), trafficOf_ask,
        StopPhase.errand_of_turn turn]
      exact .stopCalls going turn (k.backend c k.tooling).1
    | finished => exact absurd turn (StopPhase.turn_ne_finished ended)

/-- A step of a strand does to the traffic what its deed says. -/
theorem proceed_traffic (bare : k.strands = []) (s : Strand) (stays : s.work.Stays s.loop)
    (others : List Strand) :
    (k.trafficOf (s :: others)).Follows k.config.disposeTimeout
      ((k.proceed s.loop s.work).traffic s.loop others) (k.deedOf? s.work) := by
  obtain ⟨wake, work, loop⟩ := s
  cases work with
  | job j =>
    cases j with
    | done f =>
      have fed := (feeds_finish k f).traffic others
      rw [bare] at fed
      exact fed
    | act a next =>
      cases a with
      | restart => exact restart_traffic bare next _
      | stop =>
        rw [proceed, act, atOnce, continued_traffic bare]
        exact .stops
      | call c =>
        simp only [proceed, act, later]
        rw [continued_traffic (by exact bare), trafficOf_ask, errand_of_aboutCells stays.1.2,
          Option.toList_none, List.append_nil]
        rfl
      | emit e =>
        rw [proceed, act, atOnce, continued_traffic (by exact bare)]
        simp [trafficOf, List.filterMap_append, Event.errand?, List.filterMap_cons, Work.flight?,
          Work.stop?, Work.awaits?, deedOf?, Traffic.Follows]
      | generation | lease | leave =>
        rw [proceed, act, atOnce, continued_traffic (by exact bare)]
        rfl
  | joined f next =>
    cases landed : k.landing? f with
    | some o =>
      simp only [proceed, deedOf?, landed]
      rw [atOnce, continued_traffic bare]
      exact .leaves rfl (landed_of_landing landed)
    | none =>
      simp only [proceed, deedOf?, landed]
      rw [atOnce, continued_traffic bare]
      rfl
  | stopping p next => exact stop_traffic bare p next
  | flying f p => exact flight_traffic bare f p

theorem resume_traffic {before after : List Strand} {s : Strand}
    (strands : k.strands = before ++ s :: after) (stays : s.work.Stays s.loop) :
    k.traffic.Follows k.config.disposeTimeout (k.resume before s after).traffic
      (k.deedOf? s.work) := by
  have first : k.traffic = k.bare.trafficOf (s :: (before ++ after)) := by
    rw [traffic, strands, trafficOf_perm List.perm_middle]
    rfl
  have moved : (before ++ (k.stepped s).strand s.loop ++ after ++ (k.stepped s).2.strands).Perm
      ((k.stepped s).strand s.loop ++ ((k.stepped s).2.strands ++ (before ++ after))) := by
    rw [List.append_assoc before, List.append_assoc before]
    refine List.perm_append_comm.trans ?_
    simp only [List.append_assoc]
    refine List.Perm.append_left _ ?_
    rw [← List.append_assoc, ← List.append_assoc]
    exact (List.perm_append_comm.append_right _).trans
      (by simpa [List.append_assoc] using List.perm_append_comm.append_left _)
  have last : (k.resume before s after).traffic =
      (k.bare.proceed s.loop s.work).traffic s.loop (before ++ after) := by
    rw [traffic, resume_strands, trafficOf_perm moved]
    rfl
  rw [first, last]
  exact proceed_traffic (k := k.bare) rfl s stays (before ++ after)

/-- A move does to the traffic what its deed says. -/
theorem move_traffic (orderly : k.Orderly) (m : Move σ) :
    k.traffic.Follows k.config.disposeTimeout (k.move m).traffic (k.deed? m) := by
  have fed {j : Kernel σ} (h : k.Feeds j) : j.traffic = k.traffic := by
    have same := h.traffic []
    rwa [List.append_nil, List.append_nil] at same
  cases m with
  | go i =>
    cases found : k.strands[i]? with
    | some s =>
      obtain ⟨bound, rfl⟩ := List.getElem?_eq_some_iff.mp found
      simp only [move, deed?, found, Option.bind_some]
      exact resume_traffic (by simp) (orderly _ (List.getElem_mem bound))
    | none =>
      simp only [move, deed?, found]
      rfl
  | look c => exact fed (feeds_feedLane k c)
  | arrive c m =>
    simp only [move]
    split
    · unfold enqueue
      split
      · rfl
      · exact fed (feeds_withLane k c _)
    · rfl
  | restart tag =>
    exact fed (feeds_spawn k trivial (call_stays (a := .restart) trivial _ tag))
  | stop tag => exact fed (feeds_spawn k trivial (call_stays (a := .stop) trivial _ tag))
  | raise => simp [move, deed?, Traffic.Follows, raise, traffic, trafficOf, Event.errand?]
  | leave t =>
    simp only [move]
    split
    · simp [deed?, Traffic.Follows, raise, traffic, trafficOf, Event.errand?]
    · rfl
  | wait t => rfl
  | change tooling => rfl

/-- What every step of the traffic keeps holds under every schedule. -/
theorem play_traffic {P : Traffic → Prop} (config : KernelConfig) (backend : Backend σ)
    (tooling : σ) (obedient : Bool) (start : P .new)
    (step : ∀ {d} t u, P t → Traffic.Step config.disposeTimeout t d u → P u)
    (moves : List (Move σ)) : P ((new config backend tooling obedient).play moves).traffic := by
  have all : ((new config backend tooling obedient).play moves).config = config ∧
      P ((new config backend tooling obedient).play moves).traffic := by
    refine play_keeps_orderly (P := fun _ k => k.config = config ∧ P k.traffic)
      (new_orderly config backend tooling obedient) ⟨rfl, start⟩ ?_ moves
    rintro past m orderly ⟨same, held⟩
    refine ⟨(move_config orderly m).trans same, ?_⟩
    rcases (move_traffic orderly m).cases with still | ⟨d, _, moved⟩
    · rw [still]
      exact held
    · rw [same] at moved
      exact step _ _ held moved
  exact all.2

end Kernel

end NotebookKernel
