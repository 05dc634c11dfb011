import NotebookKernel.Channel.Line
import NotebookKernel.Kernel.Connected
import NotebookKernel.Machine.Workshop

/-!
# Launching a kernel

The command line names a working directory and a connection file, and it may name a
profile and what to log. What goes wrong before the kernel serves is reported with its
causes, the outermost first.
-/

namespace NotebookKernel

structure LaunchOptions where
  workingDir : String
  connectionFile : String
  profile : Option String
  log : Option String
  deriving DecidableEq, Repr

/-- What a command line asks for. -/
inductive Invocation where
  | launch (o : LaunchOptions)
  | version
  | help
  | misuse
  deriving DecidableEq, Repr

namespace Invocation

/-- The arguments read so far. -/
structure Reading where
  positional : List String := []
  profile : Option String := none
  log : Option String := none

/-- Positions and paths are never empty, and there are two positions. -/
def Reading.finish (r : Reading) : Invocation :=
  match r.positional with
  | [dir, file] =>
      if dir = "" ∨ file = "" ∨ r.profile = some "" then .misuse
      else .launch ⟨dir, file, r.profile, r.log⟩
  | _ => .misuse

/-- Is the argument a value rather than an option? -/
def isValue (a : String) : Bool := a == "-" || !a.startsWith "-"

def read (r : Reading) : List String → Invocation
  | [] => r.finish
  | "--" :: rest => { r with positional := r.positional ++ rest }.finish
  | "--profile" :: v :: rest =>
      if isValue v ∧ r.profile = none then read { r with profile := some v } rest else .misuse
  | "--log" :: v :: rest =>
      if isValue v ∧ r.log = none then read { r with log := some v } rest else .misuse
  | a :: rest =>
      if isValue a then
        if r.positional.length < 2 then read { r with positional := r.positional ++ [a] } rest
        else .misuse
      else if a = "--version" ∨ a.startsWith "-V" then .version
      else if a = "--help" ∨ a.startsWith "-h" then .help
      else if a.startsWith "--profile=" ∧ r.profile = none then
        read { r with profile := some (String.ofList (a.toList.drop 10)) } rest
      else if a.startsWith "--log=" ∧ r.log = none then
        read { r with log := some (String.ofList (a.toList.drop 6)) } rest
      else .misuse

def ofArguments (args : List String) : Invocation := read {} args

end Invocation

/-- The line that tells the version. -/
def versionLine : String :=
  KernelConfig.implementation ++ " " ++ KernelConfig.implementationVersion

/-- What the command line may look like. -/
def usage : String :=
  "Usage: " ++ KernelConfig.implementation ++ " [OPTIONS] <WORKING_DIR> <CONNECTION_FILE>"

/-- What was attempted, and why it failed. -/
structure Report where
  attempt : String
  causes : List String
  deriving DecidableEq, Repr

namespace Report

/-- A cause on lines of its own. Causes are numbered if there are several. -/
def causeText (number : Option Nat) (cause : String) : String :=
  let mark := match number with
    | some n => String.ofList (List.replicate (5 - (toString n).length) ' ') ++ toString n ++ ": "
    | none => "    "
  let below := "\n" ++ String.ofList (List.replicate mark.length ' ')
  "\n" ++ mark ++ below.intercalate (splitLines cause)

def causesText : Nat → List String → String
  | _, [] => ""
  | n, c :: rest => causeText (some n) c ++ causesText (n + 1) rest

def text (r : Report) : String :=
  "Error: " ++ r.attempt ++
    match r.causes with
    | [] => ""
    | [c] => "\n\nCaused by:" ++ causeText none c
    | cs => "\n\nCaused by:" ++ causesText 0 cs

end Report

/-- The cause below a failure of the messaging layer. -/
def ProtocolError.causes : ProtocolError → List String
  | .notUtf8 f => [f.message]
  | .json f => [f.message]
  | .content _ m => [m.message]
  | .connectionFile _ f => [f.message]
  | _ => []

/-- A failure of the kernel and what is below it. -/
def KernelError.chain : KernelError → List String
  | .protocol e => (KernelError.protocol e).message :: e.message :: e.causes
  | .tooling e => [(KernelError.tooling e).message, e.message]
  | e => [e.message]

namespace LaunchOptions

/-- What a launch needs to know besides its command line. -/
structure Surroundings where
  disk : Disk
  here : Path
  disposeTimeout : Option String
  linger : Option String
  used : InUse

/-- A kernel that is ready to start. -/
structure Plan where
  config : KernelConfig
  connection : ConnectionInfo
  profile : ToolingProfile

def readProfile (o : LaunchOptions) (s : Surroundings) : Except Report ToolingProfile :=
  match o.profile with
  | none => .ok .shell
  | some path =>
      match ToolingProfile.ofFile path (s.disk.read s.here path) with
      | .ok p => .ok p
      | .error e => .error ⟨(e.chain).headD "", e.chain.tail⟩

/-- Read the files that the command line names. -/
def plan (o : LaunchOptions) (s : Surroundings) : Except Report Plan :=
  match ConnectionInfo.ofFile o.connectionFile (s.disk.read s.here o.connectionFile) with
  | .error e => .error ⟨"load connection file " ++ o.connectionFile, e.message :: e.causes⟩
  | .ok connection =>
      match o.readProfile s with
      | .error r => .error r
      | .ok profile =>
          let failed (f : FileFault) : Report :=
            ⟨"resolve working directory " ++ o.workingDir, [f.message]⟩
          match s.disk.resolve s.here o.workingDir with
          | .error f => .error (failed f)
          | .ok dir =>
              if (s.disk.get? dir).isNone then .error (failed .notFound)
              else
                let config := KernelConfig.ofEnvironment (Disk.text dir) s.disposeTimeout s.linger
                match config.applyProfile profile with
                | (_, .error text) => .error ⟨text, []⟩
                | (config, .ok ()) => .ok ⟨config, connection, profile⟩

end LaunchOptions

namespace LaunchOptions.Plan

/-- Start the kernel with the tooling of its profile. -/
def start (p : Plan) (s : Surroundings) (stamps : Nat → Stamp) :
    Except Report (ConnectedKernel Workshop) :=
  let workshop := Workshop.new p.profile p.config.workingDir s.disk
  match (ConnectedKernel.start p.config p.connection s.used Workshop.backend workshop stamps).1 with
  | .ok r => .ok r
  | .error e => .error ⟨"start kernel", e.chain⟩

end LaunchOptions.Plan

/-- What a running kernel notes in its log. -/
inductive Note where
  | sessionReady (generation : Nat)
  | noTooling (error : ToolingError)
  | ready
  | interrupted
  | restartFailed (error : ToolingError)
  | terminated
  deriving DecidableEq, Repr

def Note.text : Note → String
  | .sessionReady generation => "tooling session ready generation=" ++ toString generation
  | .noTooling e => "kernel started without tooling: " ++ e.message
  | .ready => "kernel ready"
  | .interrupted => "interrupt received, restarting tooling"
  | .restartFailed e => "restart failed: " ++ e.message
  | .terminated => "SIGTERM received, shutting down"

namespace ConnectedKernel

variable {σ : Type}

/-- The outcome of the last restart. -/
def lastRestart? (r : ConnectedKernel σ) : Option FlightOutcome :=
  r.kernel.calls.getLast?.bind fun c =>
    match c.2 with
    | .restarted o => some o
    | .stopped _ => none

/-- The notes of the start. -/
def startNotes (r : ConnectedKernel σ) : List Note :=
  (match r.lastRestart? with
    | some (.ok generation) => [.sessionReady generation]
    | some (.error e) => [.noTooling e]
    | none => []) ++ [.ready]

/-- An interrupt restarts the tooling. -/
def interrupt (r : ConnectedKernel σ) : ConnectedKernel σ × List Note :=
  let r := r.restart 0
  (r, .interrupted :: match r.lastRestart? with
    | some (.ok generation) => [.sessionReady generation]
    | some (.error e) => [.restartFailed e]
    | none => [])

/-- A request to terminate ends the kernel. -/
def terminate (r : ConnectedKernel σ) : ConnectedKernel σ × List Note :=
  (r.shutdown.finish, [.terminated])

/-- The lines for what was sent after an earlier state. -/
def linesSince (before after : ConnectedKernel σ) : List String :=
  let lines (c : ChannelKind) (old new : Publisher) : List String :=
    (new.sent.drop old.sent.length).map fun m => frameLine c (m.encode after.signer)
  lines .shell before.shell.replies after.shell.replies ++
    lines .control before.control.replies after.control.replies ++
    lines .iopub before.iopub after.iopub

/-- Do what a line asks: the lines that answer it, and the notes. A kernel that was asked to exit
lingers and then tears everything down. -/
def obey (r : ConnectedKernel σ) : Directive → ConnectedKernel σ × List String × List Note
  | .message c frames =>
      let served := (r.receive c frames).linger
      let final := if served.isAskedToExit then served.finish else served
      (final, linesSince r final, [])
  | .ping frames => (r, [frameLine .heartbeat frames], [])
  | .interrupt =>
      let (r, notes) := r.interrupt
      (r, [], notes)
  | .terminate =>
      let (r, notes) := r.terminate
      (r, [], notes)

end ConnectedKernel

end NotebookKernel
