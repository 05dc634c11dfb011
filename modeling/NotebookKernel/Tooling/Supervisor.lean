import NotebookKernel.Tooling.Call

/-!
# The supervisor

It owns the live tooling session and the lifecycle of the kernel. Every function here
is one indivisible step: nothing else happens to the supervisor while it runs. A
restart and a stop are made of several such steps, between which calls to the tooling
take their time and other restarts and stops may step in.

Restarts are shared. Whoever asks for one while another is on its way joins it and gets
its outcome. The restart on its way is a *flight*. Sessions and flights are counted without
a bound.
-/

namespace NotebookKernel

/-- Flights are numbered in the order in which they were created. -/
abbrev FlightId := Nat

/-- The live session and the generation it belongs to. -/
structure Lease where
  session : SessionId
  generation : Nat
  deriving DecidableEq, Repr

structure Supervisor where
  lifecycle : Lifecycle
  /-- The live session. -/
  session : Option SessionId
  /-- How many sessions have been installed so far. -/
  generation : Nat
  /-- The flight that a restart would join. -/
  pending : Option FlightId
  /-- How many flights have been created. -/
  flights : Nat
  /-- How many moves the lifecycle has made. -/
  moves : Nat
  deriving DecidableEq, Repr

namespace Supervisor

def new : Supervisor := ⟨.uninitialized, none, 0, none, 0, 0⟩

/-- Move the lifecycle. -/
def move (s : Supervisor) (target : Lifecycle) : Except LifecycleError Supervisor :=
  match s.lifecycle.transition target with
  | .ok l => .ok { s with lifecycle := l, moves := s.moves + 1 }
  | .error e => .error e

/-- Move the lifecycle; a rejected move changes nothing. -/
def tryMove (s : Supervisor) (target : Lifecycle) : Supervisor :=
  match s.move target with
  | .ok s => s
  | .error _ => s

/-- The live session, unless the kernel is not running. -/
def lease? (s : Supervisor) : Option Lease :=
  if s.lifecycle = .running then s.session.map fun c => ⟨c, s.generation⟩ else none

/-- The flight that a call for a restart waits for, and whether the call creates it. -/
def join (s : Supervisor) : FlightId × Bool × Supervisor :=
  match s.pending with
  | some f => (f, false, s)
  | none => (s.flights, true, { s with pending := some s.flights, flights := s.flights + 1 })

/-- Take the live session away. -/
def take (s : Supervisor) : Option SessionId × Supervisor :=
  (s.session, { s with session := none })

/-- Stop, and take the live session away. -/
def stop (s : Supervisor) : Option SessionId × Supervisor := (s.tryMove .stopped).take

/-- The state a flight moves the lifecycle to. -/
def flightTarget (s : Supervisor) : Lifecycle :=
  if s.lifecycle = .uninitialized then .starting else .restarting

/-- Make a session the live one, if the lifecycle is still where the flight moved it. -/
def install (s : Supervisor) (target : Lifecycle) (fresh : SessionId) :
    Option (Except LifecycleError Nat) × Supervisor :=
  if s.lifecycle = target then
    let s := { s with session := some fresh, generation := s.generation + 1 }
    match s.move .running with
    | .ok s => (some (.ok s.generation), s)
    | .error e => (some (.error e), s)
  else (none, s)

/-- The flight is over: the next restart is a new one. -/
def clear (s : Supervisor) : Supervisor := { s with pending := none }

end Supervisor

end NotebookKernel
