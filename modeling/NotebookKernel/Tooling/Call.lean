import NotebookKernel.Json.Value
import NotebookKernel.Cell.Store
import NotebookKernel.Cell.Token
import NotebookKernel.Tooling.ToolingError

/-!
# Calls to the tooling

A kernel starts tooling sessions and asks the live one to compile, run, complete and
inspect. A call gives a value, reports an error, or crashes. Crashing is not an error
of the tooling but a fault in it, and the kernel has to survive it.
-/

namespace NotebookKernel

/-- Sessions are numbered in the order in which they were started. -/
abbrev SessionId := Nat

/-- How a call ends. A crash may leave a message. -/
inductive Outcome (α : Type) where
  | value (a : α)
  | failed (error : ToolingError)
  | crashed (message : Option String)
  deriving DecidableEq, Repr

/-- The text for a crash. -/
def crashText (message : Option String) : String := message.getD "unknown panic payload"

/-- A compiled cell. -/
structure Artifact where
  sequence : Int
  module : String
  path : Option String
  deriving DecidableEq, Repr

inductive ToolingCall where
  | start
  | compile (session : SessionId) (cell : Cell)
  | run (session : SessionId) (artifact : Artifact)
  | complete (session : SessionId) (cell : Cell) (span : TokenSpan)
  | inspect (session : SessionId) (cell : Cell) (span : TokenSpan)
  | dispose (session : SessionId)
  | kill (session : SessionId)
  deriving DecidableEq, Repr

namespace ToolingCall

/-- What a call gives. The output of a run is a value for each mime type. -/
@[reducible] def Answer : ToolingCall → Type
  | start => Outcome SessionId
  | compile _ _ => Outcome Artifact
  | run _ _ => Outcome Json.Dict
  | complete _ _ _ => Outcome (List String)
  | inspect _ _ _ => Outcome (Option String)
  | dispose _ => Outcome Unit
  | kill _ => Unit

end ToolingCall

/-- An answer and the time it takes in milliseconds; without a time it never comes. -/
structure Timed (α : Type) where
  delay : Option Nat
  answer : α

namespace Timed

def now {α : Type} (a : α) : Timed α := ⟨some 0, a⟩

def after {α : Type} (ms : Nat) (a : α) : Timed α := ⟨some ms, a⟩

/-- Wait no longer than a limit. -/
def within {α : Type} (t : Timed α) (limit : Nat) (late : α) : Timed α :=
  match t.delay with
  | some ms => if ms ≤ limit then t else ⟨some limit, late⟩
  | none => ⟨some limit, late⟩

end Timed

/-- The answer that the kernel gets. A session that takes too long to close is given up. -/
def ToolingCall.heard (limit : Duration) : (c : ToolingCall) → Timed c.Answer → Timed c.Answer
  | .dispose _, t => t.within limit.millis (.failed (.disposeTimeout limit))
  | _, t => t

/-- Answers for calls, given the state of the world in which the tooling lives. -/
abbrev Backend (σ : Type) := (c : ToolingCall) → σ → Timed c.Answer × σ

end NotebookKernel
