import NotebookKernel.Tooling.Call

/-!
# Scripted tooling

Tooling that follows a script, for rehearsing a kernel. All its sessions share the
script, which may be changed at any time, and it records what it was asked. A fault
planted in front of a call makes the call fail or crash before it is recorded.
-/

namespace NotebookKernel

open Json

/-- A call that ends before the script sees it. -/
inductive PlantedFault where
  | failure (error : ToolingError)
  | crash (message : Option String)

def PlantedFault.outcome {α : Type} : PlantedFault → Outcome α
  | .failure e => .failed e
  | .crash m => .crashed m

/-- The faults that are planted. -/
structure Faults where
  start : Option PlantedFault := none
  setup : Option PlantedFault := none
  compile : Option PlantedFault := none
  run : Option PlantedFault := none
  complete : Option PlantedFault := none
  inspect : Option PlantedFault := none
  dispose : Option PlantedFault := none

structure Script where
  startError : Option String := none
  startDelay : Nat := 0
  compileDelay : Nat := 0
  compileError : Option String := none
  compileCrash : Option String := none
  output : Except String Dict := .ok [("text/plain", .string "ok")]
  completions : Except String (List String) := .ok []
  inspection : Except String (Option String) := .ok none
  disposeHangs : Bool := false
  faults : Faults := {}
  starts : Nat := 0
  disposals : Nat := 0
  kills : Nat := 0
  compiled : List Cell := []
  completed : List (Cell × TokenSpan) := []
  sessions : Nat := 0

namespace Script

/-- Undo failures of compiling and running. -/
def clearFailures (s : Script) : Script :=
  { s with
    compileError := none
    compileCrash := none
    output := .ok [("text/plain", .string "ok")] }

/-- A planted fault ends the call at once. -/
def guarded {α : Type} (fault : Option PlantedFault) (s : Script)
    (body : Timed (Outcome α) × Script) : Timed (Outcome α) × Script :=
  match fault with
  | some f => (.now f.outcome, s)
  | none => body

def ofExcept {α : Type} (error : String → ToolingError) : Except String α → Outcome α
  | .ok a => .value a
  | .error text => .failed (error text)

def start (s : Script) : Timed (Outcome SessionId) × Script :=
  guarded s.faults.start s <|
    let s := { s with starts := s.starts + 1 }
    match s.startError with
    | some text => (.after s.startDelay (.failed (.start text)), s)
    | none => (.after s.startDelay (.value (s.sessions + 1)), { s with sessions := s.sessions + 1 })

/-- Setup cells compile without the failures that are scripted for the others. -/
def compileOutcome (s : Script) (cell : Cell) : Outcome Artifact :=
  match (if cell.isSetup then none else s.compileCrash),
      (if cell.isSetup then none else s.compileError), cell.module with
  | some text, _, _ => .crashed (some text)
  | none, some text, _ => .failed (.compile text)
  | none, none, none => .failed (.missingModule cell.sequence)
  | none, none, some m => .value ⟨cell.sequence, m, none⟩

def compile (s : Script) (cell : Cell) : Timed (Outcome Artifact) × Script :=
  guarded (if cell.isSetup then s.faults.setup else s.faults.compile) s
    (.after s.compileDelay (s.compileOutcome cell), { s with compiled := s.compiled ++ [cell] })

def run (s : Script) : Timed (Outcome Dict) × Script :=
  guarded s.faults.run s (.now (ofExcept .run s.output), s)

def complete (s : Script) (cell : Cell) (span : TokenSpan) :
    Timed (Outcome (List String)) × Script :=
  guarded s.faults.complete s
    (.now (ofExcept .unavailable s.completions),
      { s with completed := s.completed ++ [(cell, span)] })

def inspect (s : Script) : Timed (Outcome (Option String)) × Script :=
  guarded s.faults.inspect s (.now (ofExcept .unavailable s.inspection), s)

def dispose (s : Script) : Timed (Outcome Unit) × Script :=
  guarded s.faults.dispose s
    (⟨if s.disposeHangs then none else some 0, .value ()⟩,
      { s with disposals := s.disposals + 1 })

/-- The script as tooling. -/
def backend : Backend Script
  | .start, s => s.start
  | .compile _ cell, s => s.compile cell
  | .run _ _, s => s.run
  | .complete _ cell span, s => s.complete cell span
  | .inspect _ _ _, s => s.inspect
  | .dispose _, s => s.dispose
  | .kill _, s => (.now (), { s with kills := s.kills + 1 })

end Script

end NotebookKernel
