import NotebookKernel.Kernel.Config
import NotebookKernel.Kernel.Job
import NotebookKernel.Kernel.KernelError

/-!
# The session of the shell

The cells of a session belong to one generation of the tooling. When the tooling has
been replaced they are discarded, and numbering begins again. The setup cell is
compiled once in each generation, before the first cell of a user.
-/

namespace NotebookKernel

open Json

structure Session where
  config : KernelConfig
  cells : CellStore
  /-- The generation of the tooling that the cells belong to. -/
  generation : Nat
  setupBuilt : Bool
  /-- The number of the submitted cell whose reply is still owed. -/
  owed : Option Int

namespace Session

def emptyCells (c : KernelConfig) : CellStore := .new c.naming c.setupSource

def new (c : KernelConfig) : Session := ⟨c, emptyCells c, 0, false, none⟩

/-- Discard what belongs to a generation other than the present one. -/
def adopt (s : Session) (generation : Nat) : Session :=
  if s.generation = generation then s
  else { s with cells := emptyCells s.config, setupBuilt := false, generation := generation }

theorem adopt_generation (s : Session) (g : Nat) : (s.adopt g).generation = g := by
  unfold adopt
  split
  · assumption
  · rfl

/-- Look whether the tooling has been replaced. -/
def sync (s : Session) : Job Session := do
  let generation ← .perform .generation
  return s.adopt generation

/-- The live tooling session. If it is of another generation, the cells are discarded. -/
def lease (s : Session) : Job (Session × Option SessionId) := do
  match ← .perform .lease with
  | none => return (s, none)
  | some l =>
      if l.generation = s.generation then return (s, some l.session)
      else return (← s.sync, some l.session)

/-- The failure that a front-end is shown for an error of the tooling. -/
def failure (e : ToolingError) : ErrorContent := .ofText e.name e.message

def progress (r : Request) (text : String) : Job Unit := .broadcast r (.progress text)

def reply (r : Request) (p : Payload) : Job Unit := .reply .shell r p

/-- Compile the setup cell, unless that has been done. A blank one needs no compiling. -/
def ensureSetup (s : Session) (r : Request) (tooling : SessionId) :
    Job (Session × Outcome Unit) := do
  if s.setupBuilt then return (s, .value ())
  if trim s.cells.setup.source = "" then return ({ s with setupBuilt := true }, .value ())
  progress r "Building setup cell...\n"
  match ← .perform (.call (.compile tooling s.cells.setup)) with
  | .failed e => return (s, .failed e)
  | .crashed m => return (s, .crashed m)
  | .value _ =>
      progress r "Setup cell ready\n"
      return ({ s with setupBuilt := true }, .value ())

/-- Compile and run a cell. -/
def compileAndRun (r : Request) (tooling : SessionId) (cell : Cell) : Job (Outcome Dict) := do
  if cell.module = none then return .failed (.missingModule cell.sequence)
  progress r s!"Compiling cell {cell.sequence}...\n"
  match ← .perform (.call (.compile tooling cell)) with
  | .failed e => return .failed e
  | .crashed m => return .crashed m
  | .value artifact =>
      progress r s!"Compilation finished, running cell {cell.sequence}...\n"
      .perform (.call (.run tooling artifact))

def build (s : Session) (r : Request) (tooling : SessionId) (cell : Cell) :
    Job (Session × Outcome Dict) := do
  match ← s.ensureSetup r tooling with
  | (s, .failed e) => return (s, .failed e)
  | (s, .crashed m) => return (s, .crashed m)
  | (s, .value ()) => return (s, ← compileAndRun r tooling cell)

/-- Tell the one who asked and everyone else that an execution failed. -/
def reportFailure (r : Request) (count : Int) (e : ErrorContent) : Job Unit := do
  reply r (.executeReply (.error count e))
  .broadcast r (.error count e)

/-- Answer an execution that a crash cut short. Nothing is said if no reply is owed. -/
def abandon (s : Session) (r : Request) (e : KernelError) : Job Session := do
  match s.owed with
  | none => return s
  | some count =>
      reportFailure r count (.ofText "Kernel Error" e.message)
      return { s with owed := none }

/-- Submit the code as a cell, build it and report. -/
def execute (s : Session) (r : Request) (code : String) : Job (Session × Verdict) := do
  match ← s.lease with
  | (s, none) =>
      reply r (.executeReply (.error s.cells.current.sequence (failure .notRunning)))
      return (s, .ok ())
  | (s, some tooling) =>
      let (cell, cells) := (s.cells.update code).submit
      let count := cell.sequence
      let s := { s with cells := cells, owed := some count }
      .broadcast r (.executeInput code count)
      match ← s.build r tooling cell with
      | (s, .value data) =>
          reply r (.executeReply (.success count))
          .broadcast r (.executeResult count data [])
          return ({ s with owed := none }, .ok ())
      | (s, .failed e) =>
          reportFailure r count (failure e)
          return ({ s with owed := none }, .ok ())
      | (s, .crashed m) =>
          let e := KernelError.handlerPanicked (crashText m)
          return (← s.abandon r e, .error e)

/-- Ask for completions of the token at a cursor. A failure leaves the cursor where it is and
offers nothing. -/
def complete (s : Session) (r : Request) (code : String) (cursor : Nat) :
    Job (Session × Verdict) := do
  let span := TokenSpan.scan code.toList cursor
  match ← s.lease with
  | (s, none) =>
      reply r (.completeReply (.error (failure .notRunning)))
      return (s, .ok ())
  | (s, some tooling) =>
      let s := { s with cells := s.cells.update code }
      match ← .perform (.call (.complete tooling s.cells.current span)) with
      | .value candidates =>
          reply r (.completeReply (.ok candidates span.start span.stop []))
          return (s, .ok ())
      | .failed _ =>
          reply r (.completeReply (.ok [] cursor cursor []))
          return (s, .ok ())
      | .crashed m => return (s, .error (.handlerPanicked (crashText m)))

/-- Text in HTML, where angle brackets and ampersands have a meaning. -/
def escapeHtml : List Char → List Char
  | [] => []
  | '<' :: rest => '&' :: 'l' :: 't' :: ';' :: escapeHtml rest
  | '>' :: rest => '&' :: 'g' :: 't' :: ';' :: escapeHtml rest
  | '&' :: rest => '&' :: 'a' :: 'm' :: 'p' :: ';' :: escapeHtml rest
  | c :: rest => c :: escapeHtml rest

/-- A detail as plain text and as HTML. -/
def inspection (detail : String) : InspectReply :=
  .ok true
    (Dict.ofList
      [("text/html", .string ("<pre>" ++ String.ofList (escapeHtml detail.toList) ++ "</pre>")),
        ("text/plain", .string detail)])
    []

/-- Ask for what is known about the token at a cursor. -/
def inspect (s : Session) (r : Request) (code : String) (cursor : Nat) :
    Job (Session × Verdict) := do
  let span := TokenSpan.scan code.toList cursor
  match ← s.lease with
  | (s, none) =>
      reply r (.inspectReply (.error (failure .notRunning)))
      return (s, .ok ())
  | (s, some tooling) =>
      let s := { s with cells := s.cells.update code }
      match ← .perform (.call (.inspect tooling s.cells.current span)) with
      | .value (some detail) =>
          reply r (.inspectReply (inspection detail))
          return (s, .ok ())
      | .value none =>
          reply r (.inspectReply .notFound)
          return (s, .ok ())
      | .failed _ =>
          reply r (.inspectReply .notFound)
          return (s, .ok ())
      | .crashed m => return (s, .error (.handlerPanicked (crashText m)))

end Session

end NotebookKernel
