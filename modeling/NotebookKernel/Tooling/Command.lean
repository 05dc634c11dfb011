import NotebookKernel.Machine.Process
import NotebookKernel.Tooling.Call
import NotebookKernel.Tooling.Placeholder
import NotebookKernel.Tooling.Profile

/-!
# Tooling driven by commands

The tooling of a profile. Every session has a project directory of its own, into which
cells are written before they are compiled. A profile may have a server, which runs as
long as the session and is reached through a port. What a program does is the matter of
the launcher that a workshop comes with.
-/

namespace NotebookKernel

open Json

/-- One session: where its project is, and its server with the time it takes to exit. -/
structure CommandSession where
  id : SessionId
  project : String
  port : Option Nat
  server : Option Nat
  deriving DecidableEq, Repr

/-- The disk, the sessions that work on it, and how their programs are run. -/
structure Workshop where
  launch : Launcher
  profile : ToolingProfile
  workingDir : String
  disk : Disk
  sessions : List CommandSession
  started : Nat

namespace Workshop

def newWith (launch : Launcher) (profile : ToolingProfile) (workingDir : String) (disk : Disk) :
    Workshop :=
  ⟨launch, profile, workingDir, disk.makeDirectory ["tmp"], [], 0⟩

def projectOf (id : SessionId) : String := "/tmp/nbk-" ++ toString id

def portOf (id : SessionId) : Nat := 40000 + id

/-- A path below another one; an absolute path stands for itself. -/
def join (base file : String) : String := if file.startsWith "/" then file else base ++ "/" ++ file

def sourceDir (project : String) : String := project ++ "/src"

/-- The name of the file for a module. -/
def fileName (extension module : String) : String :=
  match extension.toList.dropWhile (· == '.') with
  | [] => module
  | ext => module ++ "." ++ String.ofList ext

/-- Where the cell for a module is written. -/
def cellPath (p : ToolingProfile) (project module : String) : String :=
  join (sourceDir project) (fileName p.language.fileExtension module)

/-- The values that every command line may use. -/
def commonValues (w : Workshop) (s : CommandSession) : List (String × String) :=
  [("project", s.project), ("workdir", w.workingDir)] ++
    match s.port with
    | some port => [("port", toString port)]
    | none => []

/-- Fill in a command line for a session. -/
def expand (w : Workshop) (s : CommandSession) (values : List (String × String))
    (template : List String) : List String :=
  Placeholder.expand (w.commonValues s ++ values) template

/-- What a failed process has to say: its errors, or else its output. -/
def detail (e : Ended) : String :=
  let err := Utf8.lossy e.err
  if trim err = "" then trimEnd (Utf8.lossy e.out) else trimEnd err

/-- Run a command in a directory: its output, or why there is none. -/
def command (w : Workshop) (argv : List String) (directory : String) :
    Timed (Except String String) × Workshop :=
  match argv with
  | [] => (.now (.error "command is empty"), w)
  | program :: args =>
      match w.launch w.disk directory program args with
      | .error f => (.now (.error (program ++ ": " ++ f.message)), w)
      | .ok (e, disk) =>
          let result : Except String String :=
            if e.exit = .code 0 then .ok (Utf8.lossy e.out)
            else .error (program ++ " failed (" ++ e.exit.describe ++ "):\n" ++ detail e)
          (.after e.elapsed result, { w with disk := disk })

/-- Write a cell into the project: its module and path. -/
def writeCell (w : Workshop) (s : CommandSession) (cell : Cell) :
    Except ToolingError (String × String × Workshop) :=
  match cell.module with
  | none => .error (.missingModule cell.sequence)
  | some m =>
      let path := cellPath w.profile s.project m
      match w.disk.write [] path (utf8 cell.source) with
      | .ok (_, disk) => .ok (m, path, { w with disk := disk })
      | .error f => .error (.compile ("write " ++ path ++ ": " ++ f.message))

/-- Turn the result of a command into the outcome of a call. -/
def concluded {α : Type} (t : Timed (Except String String)) (value : String → α)
    (error : String → ToolingError) : Timed (Outcome α) :=
  ⟨t.delay, match t.answer with
    | .ok out => .value (value out)
    | .error text => .failed (error text)⟩

/-- Create the project, and start the server if there is one. -/
def start (w : Workshop) : Timed (Outcome SessionId) × Workshop :=
  let id := w.started + 1
  let project := projectOf id
  let port := w.profile.server.map fun _ => portOf id
  let w := { w with started := id }
  let opened (server : Option Nat) (disk : Disk) : Timed (Outcome SessionId) × Workshop :=
    (.now (.value id),
      { w with disk := disk, sessions := w.sessions ++ [⟨id, project, port, server⟩] })
  let disk := w.disk.makeDirectory ["tmp", "nbk-" ++ toString id, "src"]
  match w.profile.server with
  | none => opened none disk
  | some template =>
      match w.expand ⟨id, project, port, none⟩ [] template with
      | [] => (.now (.failed (.start "server command is empty")), w)
      | program :: args =>
          match w.launch disk w.workingDir program args with
          | .error f => (.now (.failed (.start ("spawn " ++ program ++ ": " ++ f.message))), w)
          | .ok (e, disk) => opened (some e.elapsed) disk

/-- Write a cell and run the compiler on it, if there is one. -/
def compile (w : Workshop) (s : CommandSession) (cell : Cell) :
    Timed (Outcome Artifact) × Workshop :=
  match w.writeCell s cell with
  | .error e => (.now (.failed e), w)
  | .ok (m, path, w) =>
      let artifact : Artifact := ⟨cell.sequence, m, some path⟩
      if w.profile.compile = [] then (.now (.value artifact), w)
      else
        let argv := w.expand s [("file", path), ("module", m)] w.profile.compile
        let (t, w) := w.command argv s.project
        (concluded t (fun _ => artifact) .compile, w)

def run (w : Workshop) (s : CommandSession) (a : Artifact) : Timed (Outcome Dict) × Workshop :=
  let path := a.path.getD (cellPath w.profile s.project a.module)
  let argv := w.expand s [("file", path), ("module", a.module)] w.profile.run
  let (t, w) := w.command argv w.workingDir
  (concluded t (fun out => [("text/plain", .string out)]) .run, w)

/-- The values that questions about a token may use. -/
def queryValues (cell : Cell) (span : TokenSpan) : List (String × String) :=
  let source := cell.source.toList
  [("prefix", String.ofList (span.before source)), ("token", String.ofList (span.token source)),
    ("cursor", toString span.cursor), ("module", cell.module.getD "")]

/-- The lines of a text that are not blank, trimmed. -/
def fullLines (text : String) : List String :=
  ((splitAtChar '\n' text.toList).map fun l => trim (String.ofList l)).filter (· != "")

/-- Ask for completions. A cell that has a module is written first. -/
def complete (w : Workshop) (s : CommandSession) (cell : Cell) (span : TokenSpan) :
    Timed (Outcome (List String)) × Workshop :=
  match w.profile.complete with
  | none => (.now (.value []), w)
  | some template =>
      let written : Except ToolingError Workshop :=
        if cell.module = none then .ok w else (w.writeCell s cell).map fun (_, _, w) => w
      match written with
      | .error e => (.now (.failed e), w)
      | .ok w =>
          let (t, w) := w.command (w.expand s (queryValues cell span) template) w.workingDir
          (concluded t fullLines .unavailable, w)

/-- Ask for what is known about a token. A command that fails knows nothing about it. -/
def inspect (w : Workshop) (s : CommandSession) (cell : Cell) (span : TokenSpan) :
    Timed (Outcome (Option String)) × Workshop :=
  match w.profile.inspect with
  | none => (.now (.value none), w)
  | some template =>
      if span.token cell.source.toList = [] then (.now (.value none), w)
      else
        let (t, w) := w.command (w.expand s (queryValues cell span) template) w.workingDir
        let found := match t.answer with
          | .ok out => if trim out = "" then none else some (trim out)
          | .error _ => none
        (⟨t.delay, .value found⟩, w)

/-- The server of a session is gone. -/
def release (w : Workshop) (id : SessionId) : Workshop :=
  { w with sessions := w.sessions.map fun s => if s.id = id then { s with server := none } else s }

/-- Let the server exit. -/
def dispose (w : Workshop) (s : CommandSession) : Timed (Outcome Unit) × Workshop :=
  match s.server with
  | none => (.now (.value ()), w)
  | some delay => (.after delay (.value ()), w.release s.id)

def find? (w : Workshop) (id : SessionId) : Option CommandSession :=
  w.sessions.find? fun s => s.id == id

/-- Serve a call of a session that was started. -/
def within {α : Type} (w : Workshop) (id : SessionId)
    (serve : CommandSession → Timed (Outcome α) × Workshop) : Timed (Outcome α) × Workshop :=
  match w.find? id with
  | some s => serve s
  | none => (.now (.failed .notRunning), w)

/-- The workshop as tooling. -/
def backend : Backend Workshop
  | .start, w => w.start
  | .compile id cell, w => w.within id fun s => w.compile s cell
  | .run id a, w => w.within id fun s => w.run s a
  | .complete id cell span, w => w.within id fun s => w.complete s cell span
  | .inspect id cell span, w => w.within id fun s => w.inspect s cell span
  | .dispose id, w => w.within id fun s => w.dispose s
  | .kill id, w => (.now (), w.release id)

end Workshop

end NotebookKernel
