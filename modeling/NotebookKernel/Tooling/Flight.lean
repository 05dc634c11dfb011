import NotebookKernel.Text.Quoted
import NotebookKernel.Tooling.Supervisor

/-!
# Flights and stops

A flight replaces the tooling session, and a stop ends it. Both go through phases, and
`turn` says what a phase does: one step of the supervisor, or one call to the tooling.
A session is retired by disposing of it, and killed if that fails or takes too long.

A flight that crashes stays pending, so that later restarts join it too.
-/

namespace NotebookKernel

/-- What a phase does, and the phase after it. -/
inductive Turn (σ : Type) where
  | locked (step : Supervisor → σ × Supervisor)
  | call (c : ToolingCall) (next : c.Answer → σ)
  | finished

/-- How far a session has been retired. -/
inductive Retirement where
  | disposing (session : SessionId)
  | killing (session : SessionId)
  deriving DecidableEq, Repr

namespace Retirement

def session : Retirement → SessionId
  | disposing c => c
  | killing c => c

/-- Retire a session; a crash while it is disposed of is passed on. -/
def turn {σ : Type} (going : Retirement → σ) (gone : σ) (crashed : Option String → σ) :
    Retirement → Turn σ
  | disposing c => .call (.dispose c) fun
      | .value () => gone
      | .failed _ => going (killing c)
      | .crashed m => crashed m
  | killing c => .call (.kill c) fun () => gone

end Retirement

/-- How a flight ends for those who wait for it. -/
abbrev FlightOutcome := Except ToolingError Nat

inductive FlightPhase where
  /-- Look at the lifecycle. -/
  | opening
  /-- Move the lifecycle to the target. -/
  | entering (target : Lifecycle)
  /-- Take the previous session. -/
  | taking (target : Lifecycle)
  /-- Retire the previous session. -/
  | retiring (target : Lifecycle) (old : Retirement)
  /-- Start a session. -/
  | starting (target : Lifecycle)
  /-- No session was started: stop. -/
  | failing (error : ToolingError)
  /-- Make the session the live one. -/
  | installing (target : Lifecycle) (fresh : SessionId)
  /-- The kernel was stopped meanwhile: retire the session. -/
  | discarding (fresh : Retirement)
  /-- Free the way for the next flight. -/
  | clearing (outcome : FlightOutcome)
  | landed (outcome : FlightOutcome)
  | crashed (message : Option String)

namespace FlightPhase

def turn : FlightPhase → Turn FlightPhase
  | opening => .locked fun s => (entering s.flightTarget, s)
  | entering target => .locked fun s =>
      match s.move target with
      | .ok s => (taking target, s)
      | .error e => (clearing (.error (.lifecycle e)), s)
  | taking target => .locked fun s =>
      match s.take with
      | (some old, s) => (retiring target (.disposing old), s)
      | (none, s) => (starting target, s)
  | retiring target old => old.turn (retiring target) (starting target) crashed
  | starting target => .call .start fun
      | .value fresh => installing target fresh
      | .failed e => failing e
      | .crashed m => crashed m
  | failing e => .locked fun s => (clearing (.error e), s.tryMove .stopped)
  | installing target fresh => .locked fun s =>
      match s.install target fresh with
      | (some (.ok generation), s) => (clearing (.ok generation), s)
      | (some (.error e), s) => (clearing (.error (.lifecycle e)), s)
      | (none, s) => (discarding (.disposing fresh), s)
  | discarding fresh => fresh.turn discarding (clearing (.error .notRunning)) crashed
  | clearing outcome => .locked fun s => (landed outcome, s.clear)
  | landed _ => .finished
  | crashed _ => .finished

/-- The sentence for a flight that crashed. It does not tell which one it was. -/
def crashReport (message : Option String) : String :=
  "restart task failed: task <id> panicked" ++
    match message with
    | some m => " with message " ++ quoted m
    | none => ""

/-- What those who wait for the flight get, once it is over. -/
def outcome? : FlightPhase → Option FlightOutcome
  | landed outcome => some outcome
  | crashed m => some (.error (.start (crashReport m)))
  | _ => none

end FlightPhase

inductive StopPhase where
  | entering
  | retiring (old : Retirement)
  | ended
  | crashed (message : Option String)
  deriving DecidableEq, Repr

/-- How a stop ends for the one who asked for it. -/
inductive StopOutcome where
  | stopped
  | crashed (message : Option String)
  deriving DecidableEq, Repr

namespace StopPhase

def turn : StopPhase → Turn StopPhase
  | entering => .locked fun s =>
      match s.stop with
      | (some old, s) => (retiring (.disposing old), s)
      | (none, s) => (ended, s)
  | retiring old => old.turn retiring ended crashed
  | ended => .finished
  | crashed _ => .finished

/-- How the call has ended. -/
def outcome? : StopPhase → Option StopOutcome
  | ended => some .stopped
  | crashed m => some (.crashed m)
  | _ => none

end StopPhase

end NotebookKernel
