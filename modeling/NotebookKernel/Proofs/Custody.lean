import Mathlib.Data.Multiset.Bind
import Mathlib.Data.Multiset.Count
import NotebookKernel.Proofs.Supervision

/-!
# Custody of sessions

A session that was started is in one of three places: held by the flight or the stop that
has to close it, live, or closed. The books are kept as multisets of sessions, and every
step of the traffic moves a session from one book to another. A session that would not
close is killed.
-/

namespace NotebookKernel

/-- Does the answer come later than the limit, or never? -/
def Timed.late {α : Type} (limit : Nat) (t : Timed α) : Bool :=
  match t.delay with
  | some ms => limit < ms
  | none => true

namespace Errand

/-- The session that was started. -/
def started : Errand → Multiset SessionId
  | ⟨.start, ⟨_, .value c⟩⟩ => {c}
  | _ => 0

/-- The session that is asked to close. -/
def disposed : Errand → Multiset SessionId
  | ⟨.dispose c, _⟩ => {c}
  | _ => 0

/-- The session that was asked to close and reported an error or took too long. -/
def givenUp (limit : Duration) : Errand → Multiset SessionId
  | ⟨.dispose c, t⟩ =>
      match t.late limit.millis, t.answer with
      | true, _ => {c}
      | false, .failed _ => {c}
      | false, _ => 0
  | _ => 0

def killed : Errand → Multiset SessionId
  | ⟨.kill c, _⟩ => {c}
  | _ => 0

end Errand

namespace Retirement

/-- The session that has yet to be asked to close. -/
def holds : Retirement → Multiset SessionId
  | disposing c => {c}
  | killing _ => 0

/-- The session that has yet to be killed. -/
def condemns : Retirement → Multiset SessionId
  | disposing _ => 0
  | killing c => {c}

end Retirement

namespace FlightPhase

/-- The session that a flight owns. -/
def holds : FlightPhase → Multiset SessionId
  | retiring _ old => old.holds
  | installing _ fresh => {fresh}
  | discarding fresh => fresh.holds
  | _ => 0

def condemns : FlightPhase → Multiset SessionId
  | retiring _ old => old.condemns
  | discarding fresh => fresh.condemns
  | _ => 0

end FlightPhase

namespace StopPhase

/-- The session that a stop owns. -/
def holds : StopPhase → Multiset SessionId
  | retiring old => old.holds
  | _ => 0

def condemns : StopPhase → Multiset SessionId
  | retiring old => old.condemns
  | _ => 0

end StopPhase

/-- The live session, if there is one. -/
def Supervisor.live (s : Supervisor) : Multiset SessionId := s.session.toList

namespace Traffic

/-- The sessions that were started. -/
def started (t : Traffic) : Multiset SessionId := (t.errands : Multiset Errand).bind Errand.started

/-- The sessions that were asked to close, as often as they were asked. -/
def disposed (t : Traffic) : Multiset SessionId :=
  (t.errands : Multiset Errand).bind Errand.disposed

/-- The sessions that reported an error when they were asked to close, or took too long. -/
def givenUp (limit : Duration) (t : Traffic) : Multiset SessionId :=
  (t.errands : Multiset Errand).bind (Errand.givenUp limit)

def killed (t : Traffic) : Multiset SessionId := (t.errands : Multiset Errand).bind Errand.killed

/-- The sessions that flights and stops own. -/
def held (t : Traffic) : Multiset SessionId :=
  (t.flights.bind fun x => x.2.holds) + t.stops.bind StopPhase.holds

/-- The sessions that flights and stops are about to kill. -/
def condemned (t : Traffic) : Multiset SessionId :=
  (t.flights.bind fun x => x.2.condemns) + t.stops.bind StopPhase.condemns

end Traffic

/-- A session that takes too long to close is heard to have failed. -/
theorem heard_late {limit : Duration} {c : SessionId} {x : Timed (Outcome Unit)}
    (late : x.late limit.millis = true) :
    ((ToolingCall.dispose c).heard limit x).answer = .failed (.disposeTimeout limit) := by
  unfold Timed.late at late
  simp only [ToolingCall.heard, Timed.within]
  cases delay : x.delay with
  | none => rfl
  | some ms =>
    rw [delay] at late
    have beyond : ¬ms ≤ limit.millis := by simpa using late
    simp only [if_neg beyond]

/-- A session that closes in time is heard as it is. -/
theorem heard_timely {limit : Duration} {c : SessionId} {x : Timed (Outcome Unit)}
    (timely : x.late limit.millis = false) : (ToolingCall.dispose c).heard limit x = x := by
  unfold Timed.late at timely
  simp only [ToolingCall.heard, Timed.within]
  cases delay : x.delay with
  | none =>
    rw [delay] at timely
    cases timely
  | some ms =>
    rw [delay] at timely
    have within : ms ≤ limit.millis := by simpa using timely
    simp only [if_pos within]

/-- A call moves a session from what is held before it to what is closed or held after it, and
a session that is given up is condemned until it is killed. -/
structure Settles (limit : Duration) (e : Errand) (holds holds' condemns condemns' :
    Multiset SessionId) : Prop where
  custody : holds + e.started = holds' + e.disposed
  kills : condemns + e.givenUp limit = condemns' + e.killed

/-- Retiring a session, in a flight or in a stop. -/
theorem Retirement.settles {φ : Type} (holds condemns : φ → Multiset SessionId)
    (going : Retirement → φ) (gone : φ) (crashed : Option String → φ) {old : Retirement}
    {limit : Duration} {c : ToolingCall} {next : c.Answer → φ}
    (holdsGoing : ∀ r, holds (going r) = r.holds)
    (condemnsGoing : ∀ r, condemns (going r) = r.condemns)
    (holdsGone : holds gone = 0) (condemnsGone : condemns gone = 0)
    (holdsCrashed : ∀ m, holds (crashed m) = 0) (condemnsCrashed : ∀ m, condemns (crashed m) = 0)
    (turn : old.turn going gone crashed = .call c next) (x : Timed c.Answer) :
    Settles limit ⟨c, x⟩ (holds (going old)) (holds (next (c.heard limit x).answer))
      (condemns (going old)) (condemns (next (c.heard limit x).answer)) := by
  rw [holdsGoing, condemnsGoing]
  cases old with
  | killing s =>
    cases turn
    exact ⟨by simp [Retirement.holds, holdsGone, Errand.started, Errand.disposed],
      by simp [Retirement.condemns, condemnsGone, Errand.givenUp, Errand.killed]⟩
  | disposing s =>
    cases turn
    cases late : x.late limit.millis with
    | true =>
      rw [heard_late late]
      simp only [holdsGoing, condemnsGoing]
      exact ⟨by simp [Retirement.holds, Errand.started, Errand.disposed],
        by simp [Retirement.condemns, Errand.givenUp, Errand.killed, late]⟩
    | false =>
      rw [heard_timely late]
      obtain ⟨delay, answer⟩ := x
      cases answer with
      | value _ =>
        exact ⟨by simp [Retirement.holds, holdsGone, Errand.started, Errand.disposed],
          by simp [Retirement.condemns, condemnsGone, Errand.givenUp, Errand.killed, late]⟩
      | failed e =>
        simp only [holdsGoing, condemnsGoing]
        exact ⟨by simp [Retirement.holds, Errand.started, Errand.disposed],
          by simp [Retirement.condemns, Errand.givenUp, Errand.killed, late]⟩
      | crashed m =>
        exact ⟨by simp [Retirement.holds, holdsCrashed, Errand.started, Errand.disposed],
          by simp [Retirement.condemns, condemnsCrashed, Errand.givenUp, Errand.killed, late]⟩

namespace FlightPhase

variable {p : FlightPhase} {s : Supervisor} (limit : Duration)

/-- A call of a flight keeps the books. -/
theorem settles {c : ToolingCall} {next : c.Answer → FlightPhase} (turn : p.turn = .call c next)
    (x : Timed c.Answer) :
    Settles limit ⟨c, x⟩ p.holds (next (c.heard limit x).answer).holds p.condemns
      (next (c.heard limit x).answer).condemns := by
  cases p with
  | starting target =>
    cases turn
    obtain ⟨delay, answer⟩ := x
    cases answer with
    | value fresh => exact ⟨by simp [holds, ToolingCall.heard, Errand.started, Errand.disposed],
        by simp [condemns, ToolingCall.heard, Errand.givenUp, Errand.killed]⟩
    | failed e => exact ⟨rfl, rfl⟩
    | crashed m => exact ⟨rfl, rfl⟩
  | retiring target old =>
    exact Retirement.settles holds condemns (retiring target) (starting target) crashed
      (fun _ => rfl) (fun _ => rfl) rfl rfl (fun _ => rfl) (fun _ => rfl) turn x
  | discarding old =>
    exact Retirement.settles holds condemns discarding (clearing (.error .notRunning)) crashed
      (fun _ => rfl) (fun _ => rfl) rfl rfl (fun _ => rfl) (fun _ => rfl) turn x
  | _ => cases turn

/-- A step of the supervisor hands sessions over between the flight and the supervisor. -/
theorem hands_over {step : Supervisor → FlightPhase × Supervisor} (fits : p.Fits s)
    (turn : p.turn = .locked step) :
    p.holds + s.live = (step s).1.holds + (step s).2.live ∧
      p.condemns = (step s).1.condemns := by
  cases p with
  | opening =>
    cases turn
    exact ⟨rfl, rfl⟩
  | entering target =>
    cases turn
    cases allowed : s.lifecycle.allows target with
    | false =>
      simp only [Supervisor.move_rejected allowed]
      exact ⟨rfl, rfl⟩
    | true =>
      simp only [Supervisor.move_ok allowed]
      exact ⟨rfl, rfl⟩
  | taking target =>
    cases turn
    cases session : s.session with
    | none =>
      simp only [Supervisor.take, session]
      exact ⟨by simp [holds, Supervisor.live, session], rfl⟩
    | some old =>
      simp only [Supervisor.take, session]
      exact ⟨by simp [holds, Retirement.holds, Supervisor.live, session], rfl⟩
  | failing e =>
    cases turn
    obtain ⟨_, session, _⟩ := s.tryMove_stopped
    exact ⟨by simp [holds, Supervisor.live, session], rfl⟩
  | installing target fresh =>
    cases turn
    simp only [Supervisor.install_eq fits.1]
    have none : s.session = none := fits.2.1
    by_cases same : s.lifecycle = target
    · simp only [if_pos same]
      exact ⟨by simp [holds, Supervisor.live, none], rfl⟩
    · simp only [if_neg same]
      exact ⟨by simp [holds, Retirement.holds], rfl⟩
  | clearing o =>
    cases turn
    exact ⟨rfl, rfl⟩
  | retiring target old => cases old <;> cases turn
  | discarding old => cases old <;> cases turn
  | _ => cases turn

/-- A flight that is over owns nothing. -/
theorem owns_nothing {o : FlightOutcome} (ended : p.outcome? = some o) :
    p.holds = 0 ∧ p.condemns = 0 := by
  cases p with
  | landed o => exact ⟨rfl, rfl⟩
  | crashed m => exact ⟨rfl, rfl⟩
  | _ => cases ended

end FlightPhase

namespace StopPhase

variable {p : StopPhase} {s : Supervisor} (limit : Duration)

/-- A call of a stop keeps the books. -/
theorem settles {c : ToolingCall} {next : c.Answer → StopPhase} (turn : p.turn = .call c next)
    (x : Timed c.Answer) :
    Settles limit ⟨c, x⟩ p.holds (next (c.heard limit x).answer).holds p.condemns
      (next (c.heard limit x).answer).condemns := by
  cases p with
  | retiring old =>
    exact Retirement.settles holds condemns retiring ended crashed
      (fun _ => rfl) (fun _ => rfl) rfl rfl (fun _ => rfl) (fun _ => rfl) turn x
  | _ => cases turn

/-- A stop takes the live session over. -/
theorem hands_over {step : Supervisor → StopPhase × Supervisor} (turn : p.turn = .locked step) :
    p.holds + s.live = (step s).1.holds + (step s).2.live ∧
      p.condemns = (step s).1.condemns := by
  cases p with
  | entering =>
    cases turn
    obtain ⟨_, session, _⟩ := s.tryMove_stopped
    cases taken : s.session with
    | none =>
      simp only [Supervisor.stop, Supervisor.take, session, taken]
      exact ⟨by simp [holds, Supervisor.live, taken], rfl⟩
    | some old =>
      simp only [Supervisor.stop, Supervisor.take, session, taken]
      exact ⟨by simp [holds, Retirement.holds, Supervisor.live, taken], rfl⟩
  | retiring old => cases old <;> cases turn
  | _ => cases turn

theorem owns_nothing {o : StopOutcome} (ended : p.outcome? = some o) :
    p.holds = 0 ∧ p.condemns = 0 := by
  cases p with
  | ended => exact ⟨rfl, rfl⟩
  | crashed m => exact ⟨rfl, rfl⟩
  | _ => cases ended

end StopPhase

section Exchange

variable {a a' b b' : Multiset SessionId} (h : a + b = a' + b') (others rest : Multiset SessionId)

include h

/-- What one flight holds is exchanged, beside other flights and the stops. -/
theorem exchange_flight : a + others + rest + b = a' + others + rest + b' := by
  rw [add_assoc a, add_right_comm, h, add_right_comm, ← add_assoc a']

/-- What one stop holds is exchanged, beside the flights and other stops. -/
theorem exchange_stop : rest + (a + others) + b = rest + (a' + others) + b' := by
  rw [add_left_comm, add_right_comm, h, add_right_comm, add_left_comm]

end Exchange

theorem bind_errand (es : List Errand) (e : Errand) (book : Errand → Multiset SessionId) :
    ((es ++ [e] : List Errand) : Multiset Errand).bind book =
      (es : Multiset Errand).bind book + book e := by
  rw [← Multiset.coe_add, Multiset.add_bind]
  simp

namespace Traffic

variable {t u : Traffic} {limit : Duration}

/-- The books are balanced. -/
structure Balanced (limit : Duration) (t : Traffic) : Prop where
  custody : t.started = t.held + t.supervisor.live + t.disposed
  kills : t.givenUp limit = t.killed + t.condemned

namespace Balanced

theorem initial (limit : Duration) : Traffic.new.Balanced limit := ⟨rfl, rfl⟩

/-- A step of the supervisor hands sessions over. -/
theorem handsOver (h : t.Balanced limit) (errands : u.errands = t.errands)
    (custody : t.held + t.supervisor.live = u.held + u.supervisor.live)
    (kills : t.condemned = u.condemned) : u.Balanced limit where
  custody := by
    rw [← custody]
    simpa only [started, disposed, errands] using h.custody
  kills := by
    rw [← kills]
    simpa only [givenUp, killed, errands] using h.kills

/-- A call settles what is held. -/
theorem settles {e : Errand} (h : t.Balanced limit) (errands : u.errands = t.errands ++ [e])
    (supervisor : u.supervisor = t.supervisor)
    (settles : Settles limit e t.held u.held t.condemned u.condemned) : u.Balanced limit where
  custody := by
    have before := h.custody
    simp only [started, disposed] at before ⊢
    rw [errands, bind_errand, bind_errand, supervisor, before]
    calc
      _ = (t.held + e.started) + (t.supervisor.live +
          (t.errands : Multiset Errand).bind Errand.disposed) := by ac_rfl
      _ = _ := by
        rw [settles.custody]
        ac_rfl
  kills := by
    have before := h.kills
    simp only [givenUp, killed] at before ⊢
    rw [errands, bind_errand, bind_errand, before]
    calc
      _ = (t.condemned + e.givenUp limit) + (t.errands : Multiset Errand).bind Errand.killed := by
        ac_rfl
      _ = _ := by
        rw [settles.kills]
        ac_rfl

theorem step {d : Deed} (h : t.Balanced limit) (sound : t.Sound) (step : Step limit t d u) :
    u.Balanced limit := by
  cases step with
  | joins pending => exact h.handsOver rfl rfl rfl
  | leaves waits landed => exact h.handsOver rfl rfl rfl
  | creates free =>
    refine h.handsOver rfl ?_ ?_
    · simp [held, FlightPhase.holds, Supervisor.live]
    · simp [condemned, FlightPhase.condemns]
  | stops =>
    refine h.handsOver rfl ?_ ?_
    · simp [held, StopPhase.holds]
    · simp [condemned, StopPhase.condemns]
  | @turns f p rest step flying turn =>
    have fits := sound.fits (f, p) (by simp [flying])
    obtain ⟨custody, kills⟩ := FlightPhase.hands_over fits turn
    refine h.handsOver rfl ?_ ?_
    · simp only [held, flying, Multiset.cons_bind]
      exact exchange_flight custody _ _
    · simp only [condemned, flying, Multiset.cons_bind, kills]
  | @calls f p rest c next flying turn x =>
    have settled := FlightPhase.settles limit turn x
    refine h.settles rfl rfl ⟨?_, ?_⟩
    · simp only [held, flying, Multiset.cons_bind]
      exact exchange_flight settled.custody _ _
    · simp only [condemned, flying, Multiset.cons_bind]
      exact exchange_flight settled.kills _ _
  | lands flying ended =>
    obtain ⟨nothing, none⟩ := FlightPhase.owns_nothing ended
    refine h.handsOver rfl ?_ ?_
    · simp [held, flying, nothing]
    · simp [condemned, flying, none]
  | stopTurns going turn =>
    obtain ⟨custody, kills⟩ := StopPhase.hands_over (s := t.supervisor) turn
    refine h.handsOver rfl ?_ ?_
    · simp only [held, going, Multiset.cons_bind]
      exact exchange_stop custody _ _
    · simp only [condemned, going, Multiset.cons_bind, kills]
  | stopCalls going turn x =>
    have settled := StopPhase.settles limit turn x
    refine h.settles rfl rfl ⟨?_, ?_⟩
    · simp only [held, going, Multiset.cons_bind]
      exact exchange_stop settled.custody _ _
    · simp only [condemned, going, Multiset.cons_bind]
      exact exchange_stop settled.kills _ _
  | stopEnds going ended =>
    obtain ⟨nothing, none⟩ := StopPhase.owns_nothing ended
    refine h.handsOver rfl ?_ ?_
    · simp [held, going, nothing]
    · simp [condemned, going, none]

end Balanced

/-- Someone waits for every flight, and flights that are over do not fly. -/
structure Attended (t : Traffic) : Prop where
  awaited : ∀ x ∈ t.flights, x.1 ∈ t.waiting
  landed : ∀ l ∈ t.landings, l.1 < t.supervisor.flights ∧ l.1 ∉ t.flights.map Prod.fst

namespace Attended

theorem initial : Traffic.new.Attended := ⟨by simp [Traffic.new], by simp [Traffic.new]⟩

theorem congr (h : t.Attended) (flights : u.flights.map Prod.fst = t.flights.map Prod.fst)
    (created : u.supervisor.flights = t.supervisor.flights) (waiting : t.waiting ≤ u.waiting)
    (landings : u.landings = t.landings) : u.Attended where
  awaited x hx := by
    have inside : x.1 ∈ t.flights.map Prod.fst := flights ▸ Multiset.mem_map_of_mem Prod.fst hx
    obtain ⟨y, hy, same⟩ := Multiset.mem_map.mp inside
    exact Multiset.mem_of_le waiting (same ▸ h.awaited y hy)
  landed l hl := by
    rw [created, flights]
    exact h.landed l (landings ▸ hl)

theorem step {d : Deed} (h : t.Attended) (sound : t.Sound) (step : Step limit t d u) :
    u.Attended := by
  cases step with
  | joins pending => exact h.congr rfl rfl (Multiset.le_cons_self _ _) rfl
  | stops => exact h.congr rfl rfl le_rfl rfl
  | stopCalls going turn x => exact h.congr rfl rfl le_rfl rfl
  | stopEnds going ended => exact h.congr rfl rfl le_rfl rfl
  | stopTurns going turn =>
    refine h.congr rfl ?_ le_rfl rfl
    rw [StopPhase.stops_of_locked turn]
    exact t.supervisor.tryMove_stopped.2.2.2.1
  | @turns f p rest step flying turn =>
    have fits := sound.fits (f, p) (by simp [flying])
    exact h.congr (by simp [flying]) (fits.locked turn).flights le_rfl rfl
  | calls flying turn x => exact h.congr (by simp [flying]) rfl le_rfl rfl
  | creates free =>
    refine ⟨fun x hx => ?_, fun l hl => ?_⟩
    · rcases Multiset.mem_cons.mp hx with rfl | hx
      · exact Multiset.mem_cons_self _ _
      · exact Multiset.mem_cons_of_mem (h.awaited x hx)
    · obtain ⟨known, gone⟩ := h.landed l hl
      refine ⟨Nat.lt_succ_of_lt known, ?_⟩
      rw [Multiset.map_cons, Multiset.mem_cons, not_or]
      exact ⟨Nat.ne_of_lt known, gone⟩
  | @lands f p o rest flying ended =>
    have unique := sound.unique
    rw [flying, Multiset.map_cons, Multiset.nodup_cons] at unique
    refine ⟨fun x hx => h.awaited x (by simp [flying, hx]), fun l hl => ?_⟩
    rcases List.mem_append.mp hl with hl | hl
    · obtain ⟨known, gone⟩ := h.landed l hl
      rw [flying, Multiset.map_cons, Multiset.mem_cons, not_or] at gone
      exact ⟨known, gone.2⟩
    · rw [List.mem_singleton.mp hl]
      exact ⟨sound.known (f, p) (by simp [flying]), unique.1⟩
  | @leaves f o rest waits landed =>
    refine ⟨fun x hx => ?_, h.landed⟩
    have awaited := h.awaited x hx
    rw [waits, Multiset.mem_cons] at awaited
    refine awaited.resolve_left fun same => (h.landed _ landed).2 ?_
    exact same ▸ Multiset.mem_map_of_mem Prod.fst hx

end Attended

/-- Where nobody waits, nothing flies. -/
theorem Attended.nothing_flies (h : t.Attended) (quiet : t.waiting = 0) : t.flights = 0 := by
  refine Multiset.eq_zero_of_forall_notMem fun x hx => ?_
  have awaited := h.awaited x hx
  rw [quiet] at awaited
  exact Multiset.notMem_zero _ awaited

/-- Where nothing flies, a session is live just when the kernel is running. -/
theorem Sound.live_card (h : t.Sound) (flights : t.flights = 0) :
    t.supervisor.live.card = if t.supervisor.lifecycle = .running then 1 else 0 := by
  cases session : t.supervisor.session with
  | none =>
    have idle : t.supervisor.lifecycle ≠ .running := fun running =>
      h.consistent.running running session
    simp [Supervisor.live, session, idle]
  | some c =>
    have running : t.supervisor.lifecycle = .running := by
      have settled : t.supervisor.Settled := by
        cases pending : t.supervisor.pending with
        | none => exact h.settled pending
        | some f =>
          obtain ⟨_, _, none, _⟩ := h.lost f pending (by simp [flights])
          rw [session] at none
          cases none
      rcases settled with ⟨_, none⟩ | ⟨running, _⟩ | ⟨_, none⟩
      · rw [session] at none
        cases none
      · exact running
      · rw [session] at none
        cases none
    simp [Supervisor.live, session, running]

/-- Only sessions that were asked to close are given up. -/
theorem givenUp_le (limit : Duration) (t : Traffic) : t.givenUp limit ≤ t.disposed := by
  unfold givenUp disposed
  induction t.errands with
  | nil => exact le_rfl
  | cons e rest ih =>
    have one : Errand.givenUp limit e ≤ e.disposed := by
      obtain ⟨c, x⟩ := e
      cases c with
      | dispose s =>
        simp only [Errand.givenUp, Errand.disposed]
        split <;> simp
      | _ => exact le_rfl
    rw [← Multiset.cons_coe, Multiset.cons_bind, Multiset.cons_bind]
    exact add_le_add one ih

end Traffic

namespace Kernel

variable {σ : Type}

/-- No session leaks and none is closed twice, under every schedule. Whatever was started is
held, live or was asked to close, as often as it was started; a session is killed just when it
reported an error or took too long. When nobody waits for a restart and no stop is on its way,
every session has been asked to close but the live one of a running kernel. -/
theorem sessions_accounted (config : KernelConfig) (backend : Backend σ) (tooling : σ)
    (obedient : Bool) (moves : List (Move σ)) :
    let t := ((new config backend tooling obedient).play moves).traffic
    let limit := config.disposeTimeout
    t.started = t.held + t.supervisor.live + t.disposed ∧
    (∀ c, t.started.count c = 1 →
      (t.held.count c, t.supervisor.live.count c, t.disposed.count c) ∈
        [(1, 0, 0), (0, 1, 0), (0, 0, 1)]) ∧
    t.givenUp limit = t.killed + t.condemned ∧
    t.givenUp limit ≤ t.disposed ∧
    (t.waiting = 0 → t.stops = 0 →
      t.held = 0 ∧ t.killed = t.givenUp limit ∧
      t.disposed.card + (if t.supervisor.lifecycle = .running then 1 else 0) =
        t.started.card) := by
  intro t limit
  obtain ⟨sound, balanced, attended⟩ :
      t.Sound ∧ t.Balanced limit ∧ t.Attended :=
    play_traffic (P := fun t => t.Sound ∧ t.Balanced limit ∧ t.Attended) config backend tooling
      obedient ⟨.initial, .initial limit, .initial⟩
      (fun _ _ h step => ⟨h.1.step step, h.2.1.step h.1 step, h.2.2.step h.1 step⟩) moves
  refine ⟨balanced.custody, fun c once => ?_, balanced.kills, t.givenUp_le limit,
    fun quiet still => ?_⟩
  · rw [balanced.custody, Multiset.count_add, Multiset.count_add] at once
    simp only [List.mem_cons, Prod.mk.injEq, List.not_mem_nil, or_false]
    omega
  · have flights := attended.nothing_flies quiet
    have held : t.held = 0 := by simp [Traffic.held, flights, still]
    have condemned : t.condemned = 0 := by simp [Traffic.condemned, flights, still]
    refine ⟨held, by rw [balanced.kills, condemned, add_zero], ?_⟩
    rw [balanced.custody, held, zero_add, Multiset.card_add, sound.live_card flights, add_comm]

end Kernel

end NotebookKernel
