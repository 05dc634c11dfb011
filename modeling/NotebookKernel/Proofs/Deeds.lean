import Mathlib.Data.Multiset.Filter
import NotebookKernel.Proofs.Custody

/-!
# Deeds

The deeds of a schedule, in the order in which they are done. Who calls for a restart is
followed through the schedule: its strand may change its place but not its work, unless
it goes on itself. It joins one flight and then waits for the outcome of this flight.
-/

namespace NotebookKernel

namespace Traffic

variable {t u : Traffic} {limit : Duration} {d : Deed}

/-- Flights are never lost: each is on its way or has landed, and it lands once. -/
structure Regular (t : Traffic) : Prop where
  sound : t.Sound
  attended : t.Attended
  accounted : ∀ f < t.supervisor.flights, f ∈ t.flights.map Prod.fst ∨
    f ∈ t.landings.map Prod.fst
  once : (t.landings.map Prod.fst).Nodup
  /-- The pending flight is the last one that was created. -/
  last : ∀ f, t.supervisor.pending = some f → f + 1 = t.supervisor.flights

namespace Regular

theorem initial : Traffic.new.Regular where
  sound := .initial
  attended := .initial
  accounted := by simp [Traffic.new, Supervisor.new]
  once := List.nodup_nil
  last := by simp [Traffic.new, Supervisor.new]

/-- Nothing changes but who waits, or what stops do. -/
theorem congr (h : t.Regular) (sound : u.Sound) (attended : u.Attended)
    (flights : u.flights.map Prod.fst = t.flights.map Prod.fst)
    (created : u.supervisor.flights = t.supervisor.flights) (landings : u.landings = t.landings)
    (pending : u.supervisor.pending = none ∨ u.supervisor.pending = t.supervisor.pending) :
    u.Regular where
  sound := sound
  attended := attended
  accounted := by
    rw [created, flights, landings]
    exact h.accounted
  once := by
    rw [landings]
    exact h.once
  last f hf := by
    rw [created]
    rcases pending with free | same
    · rw [free] at hf
      cases hf
    · exact h.last f (same ▸ hf)

theorem step (h : t.Regular) (step : Step limit t d u) : u.Regular := by
  have sound : u.Sound := h.sound.step step
  have attended : u.Attended := h.attended.step h.sound step
  cases step with
  | joins pending => exact h.congr sound attended rfl rfl rfl (Or.inr rfl)
  | leaves waits landed => exact h.congr sound attended rfl rfl rfl (Or.inr rfl)
  | stops => exact h.congr sound attended rfl rfl rfl (Or.inr rfl)
  | stopCalls going turn x => exact h.congr sound attended rfl rfl rfl (Or.inr rfl)
  | stopEnds going ended => exact h.congr sound attended rfl rfl rfl (Or.inr rfl)
  | calls flying turn x => exact h.congr sound attended (by simp [flying]) rfl rfl (Or.inr rfl)
  | stopTurns going turn =>
    obtain ⟨_, _, pending, flights, _⟩ := t.supervisor.tryMove_stopped
    refine h.congr sound attended rfl ?_ rfl (Or.inr ?_)
    · rw [StopPhase.stops_of_locked turn]
      exact flights
    · rw [StopPhase.stops_of_locked turn]
      exact pending
  | @turns f p rest step flying turn =>
    have takes := (h.sound.fits (f, p) (by simp [flying])).locked turn
    refine h.congr sound attended (by simp [flying]) takes.flights rfl ?_
    rw [takes.pending]
    split
    · exact Or.inl rfl
    · exact Or.inr rfl
  | creates free =>
    refine ⟨sound, attended, fun f hf => ?_, h.once, fun f hf => ?_⟩
    · rcases Nat.lt_succ_iff_lt_or_eq.mp hf with old | rfl
      · exact (h.accounted f old).imp_left fun flying => by simp [flying]
      · exact Or.inl (by simp)
    · cases hf
      rfl
  | @lands f p o rest flying ended =>
    have gone : f ∉ t.landings.map Prod.fst := by
      intro landed
      obtain ⟨l, hl, rfl⟩ := List.mem_map.mp landed
      exact (h.attended.landed l hl).2 (by simp [flying])
    refine ⟨sound, attended, fun g hg => ?_, ?_, h.last⟩
    · have known := h.accounted g hg
      rw [flying, Multiset.map_cons, Multiset.mem_cons] at known
      rcases known with (rfl | flies) | landed
      · exact Or.inr (by simp)
      · exact Or.inl flies
      · exact Or.inr (by simp [landed])
    · rw [List.map_append, List.map_singleton]
      exact h.once.append (List.nodup_singleton f) (by simpa using gone)

/-- A flight that was created is on its way or has landed. -/
theorem flies_or_landed (h : t.Regular) {f : FlightId} (created : f < t.supervisor.flights) :
    (∃ p, (f, p) ∈ t.flights) ∨ ∃ o, (f, o) ∈ t.landings :=
  (h.accounted f created).imp (fun flies => by simpa using flies) fun landed => by
    simpa using landed

/-- A flight lands with one outcome. -/
theorem same_outcome (h : t.Regular) {f : FlightId} {o o' : FlightOutcome}
    (first : (f, o) ∈ t.landings) (second : (f, o') ∈ t.landings) : o = o' :=
  congrArg Prod.snd (List.inj_on_of_nodup_map h.once first second rfl)

end Regular

/-- Whoever waits for a flight waits for one that was created. -/
def Joined (t : Traffic) : Prop := ∀ f ∈ t.waiting, f < t.supervisor.flights

theorem Joined.step {limit : Duration} {d : Deed} {u : Traffic} (h : t.Joined) (sound : t.Sound)
    (step : Step limit t d u) : u.Joined := by
  cases step with
  | joins pending =>
    intro f waits
    rcases Multiset.mem_cons.mp waits with rfl | waits
    · exact sound.created f pending
    · exact h f waits
  | creates free =>
    intro f waits
    rcases Multiset.mem_cons.mp waits with rfl | waits
    · exact Nat.lt_succ_self _
    · exact Nat.lt_succ_of_lt (h f waits)
  | @turns f p rest step flying turn =>
    have takes := (sound.fits (f, p) (by simp [flying])).locked turn
    intro g waits
    rw [takes.flights]
    exact h g waits
  | @leaves f o rest waits landed =>
    intro g still
    exact h g (by simp [waits, still])
  | stopTurns going turn =>
    intro f waits
    rw [StopPhase.stops_of_locked turn]
    exact (h f waits).trans_eq t.supervisor.tryMove_stopped.2.2.2.1.symm
  | _ => exact h

/-- What has landed has landed for good. -/
theorem Step.landings_prefix (step : Step limit t d u) : t.landings <+: u.landings := by
  cases step with
  | lands flying ended => exact List.prefix_append _ _
  | _ => exact List.prefix_refl _

end Traffic

/-- The strand that a move lets go on. -/
def Move.mover? {σ : Type} : Move σ → Option Nat
  | .go i => some i
  | _ => none

namespace Kernel

variable {σ : Type}

/-- What is done in the course of a schedule, the first deed first. -/
def deeds (k : Kernel σ) : List (Move σ) → List Deed
  | [] => []
  | m :: moves => (k.deed? m).toList ++ (k.move m).deeds moves

/-- Does the strand come to its end when it goes on? -/
def ends (k : Kernel σ) (i : Nat) : Bool := (k.strands[i]?).any fun s => (k.stepped s).1.isNone

/-- The place of a strand after a move, unless it has come to its end. -/
def follow (k : Kernel σ) (j : Nat) : Move σ → Option Nat
  | .go i =>
      if k.ends i then
        if j = i then none else if i < j then some (j - 1) else some j
      else some j
  | _ => some j

/-- The place of a strand after a schedule, unless it has come to its end. -/
def track (k : Kernel σ) (j : Nat) : List (Move σ) → Option Nat
  | [] => some j
  | m :: moves => (k.follow j m).bind fun i => (k.move m).track i moves

/-- What one strand does in the course of a schedule. -/
def deedsOf (k : Kernel σ) (j : Nat) : List (Move σ) → List Deed
  | [] => []
  | m :: moves =>
      (if m.mover? = some j then (k.deed? m).toList else []) ++
        (k.follow j m).elim [] fun i => (k.move m).deedsOf i moves

/-- The call for a restart that the strand makes waits for its flight. It gets the outcome with
which the flight lands, and it can have it as soon as the flight has landed. -/
structure Awaits (k : Kernel σ) (f : FlightId) (place : Option Nat) (log : List Deed) : Prop where
  returned : ∀ d ∈ log.head?, ∃ o, d = .returns f o ∧ (f, o) ∈ k.landings
  ready : log = [] → ∀ o, (f, o) ∈ k.landings →
    ∃ j ∈ place, k.deed? (.go j) = some (.returns f o)

/-! ## Runs -/

@[simp] theorem deeds_nil (k : Kernel σ) : k.deeds [] = [] := rfl

@[simp] theorem deeds_cons (k : Kernel σ) (m : Move σ) (moves : List (Move σ)) :
    k.deeds (m :: moves) = (k.deed? m).toList ++ (k.move m).deeds moves := rfl

@[simp] theorem deeds_append (k : Kernel σ) (first second : List (Move σ)) :
    k.deeds (first ++ second) = k.deeds first ++ (k.play first).deeds second := by
  induction first generalizing k with
  | nil => rfl
  | cons m rest ih => simp [ih]

/-- A kernel as it is after a schedule. -/
structure Proper (k : Kernel σ) : Prop where
  orderly : k.Orderly
  regular : k.traffic.Regular

theorem play_config {k : Kernel σ} (orderly : k.Orderly) (moves : List (Move σ)) :
    (k.play moves).config = k.config := by
  refine play_keeps_orderly (P := fun _ j => j.config = k.config) orderly rfl ?_ moves
  intro past m tidy same
  exact (move_config tidy m).trans same

theorem play_orderly {k : Kernel σ} (orderly : k.Orderly) (moves : List (Move σ)) :
    (k.play moves).Orderly :=
  play_keeps_orderly (P := fun _ j => j.Orderly) orderly orderly
    (fun _ m tidy _ => move_orderly tidy m) moves

/-- What every deed keeps holds after a schedule, of the deeds and of the traffic. -/
theorem play_deeds {P : List Deed → Traffic → Prop} {k : Kernel σ} (orderly : k.Orderly)
    (start : P [] k.traffic)
    (step : ∀ {d} ds t u, P ds t → Traffic.Step k.config.disposeTimeout t d u → P (ds ++ [d]) u)
    (moves : List (Move σ)) : P (k.deeds moves) (k.play moves).traffic := by
  refine play_keeps_orderly (P := fun past j => P (k.deeds past) j.traffic) orderly start ?_ moves
  intro past m tidy held
  have moved := move_traffic tidy m
  rw [play_config orderly past] at moved
  rw [deeds_append, deeds_cons, deeds_nil, List.append_nil]
  cases deed : (k.play past).deed? m with
  | none =>
    rw [deed] at moved
    rw [Option.toList_none, List.append_nil, show ((k.play past).move m).traffic = _ from moved]
    exact held
  | some d =>
    rw [deed] at moved
    exact step _ _ _ held moved

namespace Proper

variable {k : Kernel σ}

theorem play (h : k.Proper) (moves : List (Move σ)) : (k.play moves).Proper where
  orderly := play_orderly h.orderly moves
  regular := play_deeds (P := fun _ t => t.Regular) h.orderly h.regular
    (fun _ _ _ held step => held.step step) moves

theorem move (h : k.Proper) (m : Move σ) : (k.move m).Proper := h.play [m]

/-- What has landed has landed for good. -/
theorem landings (h : k.Proper) (moves : List (Move σ)) :
    k.landings <+: (k.play moves).landings :=
  play_deeds (P := fun _ t => k.landings <+: t.landings) h.orderly (List.prefix_refl _)
    (fun _ _ _ held step => held.trans step.landings_prefix) moves

theorem joined (h : k.Proper) (joined : k.traffic.Joined) (moves : List (Move σ)) :
    (k.play moves).traffic.Joined :=
  (play_deeds (P := fun _ t => t.Regular ∧ t.Joined) h.orderly ⟨h.regular, joined⟩
    (fun _ _ _ held step => ⟨held.1.step step, held.2.step held.1.sound step⟩) moves).2

/-- Whoever gets an outcome gets the one with which the flight landed. -/
theorem returns (h : k.Proper) (moves : List (Move σ)) {f : FlightId} {o : FlightOutcome}
    (returned : .returns f o ∈ k.deeds moves) : (f, o) ∈ (k.play moves).landings := by
  refine play_deeds (P := fun ds t => .returns f o ∈ ds → (f, o) ∈ t.landings) h.orderly
    (by simp) ?_ moves returned
  intro d ds t u held step returned
  rcases List.mem_append.mp returned with old | new
  · exact step.landings_prefix.subset (held old)
  · cases List.mem_singleton.mp new
    cases step with
    | leaves waits landed => exact landed

end Proper

theorem new_proper (config : KernelConfig) (backend : Backend σ) (tooling : σ)
    (obedient : Bool) : (new config backend tooling obedient).Proper :=
  ⟨new_orderly config backend tooling obedient, .initial⟩

/-! ## Following a strand -/

variable {k : Kernel σ} {i j : Nat} {s : Strand} {m : Move σ} {f : FlightId}

/-- The strand that goes on stays in its place or leaves it; new strands come last. -/
theorem move_go_strands (found : k.strands[i]? = some s) :
    (k.move (.go i)).strands = (match (k.stepped s).1 with
      | some (wake, work) => k.strands.set i ⟨wake, work, s.loop⟩
      | none => k.strands.eraseIdx i) ++ (k.stepped s).2.strands := by
  obtain ⟨bound, _⟩ := List.getElem?_eq_some_iff.mp found
  simp only [move, found, resume_strands, Continuation.strand]
  cases next : (k.stepped s).1 with
  | none => simp [List.eraseIdx_eq_take_drop_succ]
  | some x =>
    obtain ⟨wake, work⟩ := x
    simp [List.set_eq_take_append_cons_drop, bound]

/-- Moves that let no strand go on only add strands. -/
theorem move_strands_prefix (still : m.mover? = none) : k.strands <+: (k.move m).strands := by
  have fed {j : Kernel σ} (h : k.Feeds j) : k.strands <+: j.strands := by
    obtain ⟨ss, began, _⟩ := h.strands
    exact began ▸ List.prefix_append _ _
  cases m with
  | go i => cases still
  | look c => exact fed (feeds_feedLane k c)
  | arrive c m =>
    simp only [move]
    split
    · unfold enqueue
      split
      · exact List.prefix_refl _
      · exact fed (feeds_withLane k c _)
    · exact List.prefix_refl _
  | restart tag => exact List.prefix_append _ _
  | stop tag => exact List.prefix_append _ _
  | leave t =>
    simp only [move]
    split
    · exact List.prefix_refl _
    · exact List.prefix_refl _
  | raise | wait t | change tooling => exact List.prefix_refl _

/-- A strand that does not go on is what it was. -/
theorem follow_of_other (found : k.strands[j]? = some s) (other : m.mover? ≠ some j) :
    ∃ i, k.follow j m = some i ∧ (k.move m).strands[i]? = some s := by
  obtain ⟨bound, _⟩ := List.getElem?_eq_some_iff.mp found
  cases mover : m.mover? with
  | none =>
    have kept : (k.move m).strands[j]? = some s := by
      obtain ⟨added, same⟩ := move_strands_prefix mover
      rw [← same, List.getElem?_append_left bound, found]
    refine ⟨j, ?_, kept⟩
    cases m with
    | go i => cases mover
    | _ => rfl
  | some i =>
    cases m with
    | go i' =>
      cases mover
      have apart : i ≠ j := fun same => other (same ▸ rfl)
      cases goes : k.strands[i]? with
      | none =>
        refine ⟨j, ?_, ?_⟩
        · simp [follow, ends, goes]
        · simpa [move, goes] using found
      | some s' =>
        have inside : i < k.strands.length := (List.getElem?_eq_some_iff.mp goes).1
        rw [move_go_strands goes]
        cases next : (k.stepped s').1 with
        | some x =>
          obtain ⟨wake, work⟩ := x
          refine ⟨j, by simp [follow, ends, goes, next], ?_⟩
          rw [List.getElem?_append_left (by simpa using bound), List.getElem?_set_ne apart, found]
        | none =>
          have ended : k.ends i = true := by simp [ends, goes, next]
          rcases Nat.lt_or_gt_of_ne apart with before | behind
          · refine ⟨j - 1, ?_, ?_⟩
            · simp [follow, ended, before, Ne.symm apart]
            · rw [List.getElem?_append_left, List.getElem?_eraseIdx, if_neg (by omega),
                Nat.sub_add_cancel (by omega), found]
              rw [List.length_eraseIdx_of_lt inside]
              omega
          · refine ⟨j, ?_, ?_⟩
            · simp [follow, ended, Ne.symm apart, Nat.not_lt_of_lt behind]
            · rw [List.getElem?_append_left, List.getElem?_eraseIdx, if_pos behind, found]
              rw [List.length_eraseIdx_of_lt inside]
              omega
    | _ => cases mover

/-- A strand that goes on without coming to its end stays in its place. -/
theorem follow_of_stepped {wake : Option Nat} {work : Work} (found : k.strands[j]? = some s)
    (next : (k.stepped s).1 = some (wake, work)) :
    k.follow j (.go j) = some j ∧ (k.move (.go j)).strands[j]? = some ⟨wake, work, s.loop⟩ := by
  obtain ⟨bound, _⟩ := List.getElem?_eq_some_iff.mp found
  refine ⟨by simp [follow, ends, found, next], ?_⟩
  rw [move_go_strands found, next]
  simp [List.getElem?_append_left, bound]

/-! ## Calls for a restart -/

/-- Whoever waits for a flight does nothing and stays where it is, unless it goes on when the flight
has landed. -/
theorem follow_of_joined {next : FlightOutcome → Job Finish} (found : k.strands[j]? = some s)
    (waits : s.work = .joined f next) (aloft : m.mover? = some j → k.landing? f = none) :
    ∃ i t, k.follow j m = some i ∧ (k.move m).strands[i]? = some t ∧ t.loop = s.loop ∧
      t.work = .joined f next ∧
      ∀ moves, k.deedsOf j (m :: moves) = (k.move m).deedsOf i moves := by
  by_cases mover : m.mover? = some j
  · obtain rfl : m = .go j := by
      cases m with
      | go i => cases mover; rfl
      | _ => cases mover
    have landed : k.landing? f = none := aloft rfl
    have still : k.bare.landing? f = none := landed
    have stepped : (k.stepped s).1 = some (some k.now, .joined f next) := by
      simp only [Kernel.stepped, waits, proceed, still]
      rfl
    obtain ⟨place, kept⟩ := follow_of_stepped found stepped
    have nothing : k.deed? (.go j) = none := by simp [deed?, found, deedOf?, waits, landed]
    exact ⟨j, _, place, kept, rfl, rfl, fun moves => by simp [deedsOf, place, nothing]⟩
  · obtain ⟨i, place, kept⟩ := follow_of_other found mover
    exact ⟨i, s, place, kept, rfl, waits, fun moves => by simp [deedsOf, place, mover]⟩

/-- Whoever waits for a flight goes on waiting until it has landed, and gets its outcome then. -/
theorem awaits_of_joined (proper : k.Proper) {next : FlightOutcome → Job Finish}
    (found : k.strands[j]? = some s) (waits : s.work = .joined f next)
    (moves : List (Move σ)) : (k.play moves).Awaits f (k.track j moves) (k.deedsOf j moves) := by
  induction moves generalizing k j s with
  | nil =>
    refine ⟨by simp [deedsOf], fun _ o landed => ⟨j, rfl, ?_⟩⟩
    have outcome : k.landing? f = some o := by
      obtain ⟨o', found'⟩ : ∃ o', k.landing? f = some o' := by
        rw [← Option.isSome_iff_exists]
        simpa [landing?] using ⟨o, landed⟩
      rw [found', proper.regular.same_outcome (landed_of_landing found') landed]
    have goes : k.strands[j]? = some s := found
    simp [deed?, goes, deedOf?, waits, outcome]
  | cons m rest ih =>
    by_cases aloft : m.mover? = some j → k.landing? f = none
    · obtain ⟨i, t, place, kept, _, waits', quiet⟩ := follow_of_joined found waits aloft
      have later := ih (proper.move m) kept waits'
      simpa [quiet, track, place] using later
    · obtain ⟨mover, landed⟩ := Classical.not_imp.mp aloft
      obtain ⟨o, landed⟩ := Option.ne_none_iff_exists'.mp landed
      obtain rfl : m = .go j := by
        cases m with
        | go i => cases mover; rfl
        | _ => cases mover
      have deed : k.deed? (.go j) = some (.returns f o) := by
        simp [deed?, found, deedOf?, waits, landed]
      refine ⟨fun d hd => ⟨o, ?_, ?_⟩, fun nothing => ?_⟩
      · simpa [deedsOf, mover, deed, eq_comm] using hd
      · exact (proper.landings (.go j :: rest)).subset (landed_of_landing landed)
      · simp [deedsOf, mover, deed] at nothing

/-- The strand whose deed is to join a flight calls for a restart. -/
theorem calls_of_joins {w : Work} {b : Bool} (h : k.deedOf? w = some (.joins f b)) :
    ∃ next, w = .job (.act .restart next) ∧ k.supervisor.join.1 = f ∧
      k.supervisor.join.2.1 = b := by
  cases w with
  | job j =>
    cases j with
    | done a => cases h
    | act a next =>
      cases a with
      | restart =>
        cases h
        exact ⟨next, rfl, rfl, rfl⟩
      | _ => cases h
  | joined g next => simp [deedOf?] at h
  | stopping p next =>
    simp only [deedOf?] at h
    split at h <;> cases h
  | flying g p =>
    simp only [deedOf?] at h
    split at h <;> cases h

/-- A strand that calls for a restart stays in its place and waits for the flight. -/
theorem joined_of_call {b : Bool} (found : k.strands[i]? = some s)
    (call : k.deed? (.go i) = some (.joins f b)) :
    ∃ next wake, s.work = .job (.act .restart next) ∧ k.follow i (.go i) = some i ∧
      (k.move (.go i)).strands[i]? = some ⟨wake, .joined f next, s.loop⟩ := by
  rw [deed?, found, Option.bind_some] at call
  obtain ⟨next, work, joined, _⟩ := calls_of_joins call
  have stepped : (k.stepped s).1 = some (some k.now, .joined f next) := by
    simp only [Kernel.stepped, work, proceed, act, atOnce, ← joined]
    split <;> rfl
  obtain ⟨place, kept⟩ := follow_of_stepped found stepped
  exact ⟨next, _, work, place, kept⟩

/-- Whoever calls for a restart joins one flight and waits for it. -/
theorem awaits_of_joins (proper : k.Proper) {b : Bool}
    (call : k.deed? (.go i) = some (.joins f b)) (moves : List (Move σ)) :
    ∃ log, k.deedsOf i (.go i :: moves) = .joins f b :: log ∧
      (k.play (.go i :: moves)).Awaits f (k.track i (.go i :: moves)) log := by
  obtain ⟨s, found, _⟩ := Option.bind_eq_some_iff.mp call
  obtain ⟨next, _, _, place, kept⟩ := joined_of_call found call
  have waits := awaits_of_joined (proper.move _) kept rfl moves
  refine ⟨(k.move (.go i)).deedsOf i moves, ?_, ?_⟩
  · simp [deedsOf, Move.mover?, call, place]
  · simpa [track, place] using waits

end Kernel

end NotebookKernel
