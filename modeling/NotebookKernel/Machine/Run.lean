import NotebookKernel.Machine.Builtin

/-!
# Running scripts and programs

Scripts are run with fuel, since they may loop. `Disk.launch` is the launcher of a machine
whose only programs are a shell and what goes with it.
-/

namespace NotebookKernel

open ShellScript

namespace Shell

/-- The program that a name stands for: the name itself, or the end of a path to a directory of
programs. -/
def programName (name : String) : String :=
  if name.startsWith "/bin/" then String.ofList (name.toList.drop 5)
  else if name.startsWith "/usr/bin/" then String.ofList (name.toList.drop 9)
  else name

/-- Leave a loop or go on with it after its body. -/
inductive Round where
  | again
  | stop (flow : Flow)

def round : Flow → Round
  | .next => .again
  | .nextRound n => if n ≤ 1 then .again else .stop (.nextRound (n - 1))
  | .leaveLoop n => if n ≤ 1 then .stop .next else .stop (.leaveLoop (n - 1))
  | flow => .stop flow

/-- What is left of the inner shell when it has ended. -/
def rejoin (outer inner : Shell) (flow : Flow) : Shell :=
  let status := match flow with
    | .exit e => e.status
    | _ => inner.status
  { outer with
    disk := inner.disk
    out := inner.out
    err := inner.err
    input := inner.input
    elapsed := inner.elapsed
    status := status }

/-- The complaint about a name that stands for no program. -/
def missing (s : Shell) (line : Nat) (before name : String) : Effect :=
  let there := name.contains '/' && (s.entry? name).isSome
  if there then (s.report line (before ++ name ++ ": Permission denied")).ended 126
  else (s.report line (before ++ name ++ ": not found")).ended 127

/-- Give names the values back that they had in another state. -/
def unassign (s old : Shell) (names : List String) : Shell :=
  { s with
    bindings := (old.bindings.filter fun b => names.contains b.1) ++
      s.bindings.filter fun b => !names.contains b.1 }

/-- Built-in commands after which assignments in front of them last. -/
def specialBuiltins : List String :=
  [":", ".", "break", "continue", "eval", "exec", "exit", "export", "return", "set", "shift",
    "trap", "unset"]

mutual

/-- Run a command. -/
def run : Nat → Command → Shell → Effect
  | 0, _, s => (.exit (.code 125), s)
  | fuel + 1, c, s =>
      match c with
      | .skip => (.next, s)
      | .simple line words redirects => runSimple fuel line words redirects s
      | .seq a b =>
          match run fuel a s with
          | (.next, s) => run fuel b s
          | e => e
      | .both a b =>
          match run fuel a s with
          | (.next, s) => if s.status = 0 then run fuel b s else (.next, s)
          | e => e
      | .either a b =>
          match run fuel a s with
          | (.next, s) => if s.status = 0 then (.next, s) else run fuel b s
          | e => e
      | .negated a =>
          match run fuel a s with
          | (.next, s) => s.ended (if s.status = 0 then 1 else 0)
          | e => e
      | .pipe a b =>
          let (flow, inner) := run fuel a { s with out := [], output := .out }
          let piped := inner.out
          let s := s.rejoin { inner with out := s.out } flow
          let (flow, inner) := run fuel b { s with input := piped }
          (.next, { s.rejoin inner flow with input := s.input })
      | .branch condition yes no =>
          match run fuel condition s with
          | (.next, s) =>
              if s.status = 0 then run fuel yes (s.withStatus 0) else run fuel no (s.withStatus 0)
          | e => e
      | .loop expected condition body =>
          let (flow, inner) :=
            runLoop fuel expected condition body 0 { s with loops := s.loops + 1 }
          (flow, { inner with loops := s.loops })
      | .each name words body =>
          let (values, s) := match words with
            | some ws => s.allArguments fuel ws
            | none => (s.params, s)
          let (flow, inner) := runEach fuel name values body { s with loops := s.loops + 1 }
          (flow, { inner with loops := s.loops })
      | .select subject arms =>
          let (text, s) := s.single (capture fuel) subject
          runArms fuel (unmarked text).toList arms s
      | .define name body =>
          ({ s with functions := (name, body) :: s.functions }).ended 0
      | .subshell c =>
          let (flow, inner) := run fuel c s
          (.next, s.rejoin inner flow)
      | .redirected line c redirects =>
          match s.redirectAll (capture fuel) redirects with
          | (.error e, s) => (s.report line e).ended 2
          | (.ok inner, _) =>
              let (flow, inner) := run fuel c inner
              (flow, { inner.restore s with
                input :=
                  if redirects.any (·.stream == 0) then s.input else inner.input })

/-- The output of a script that is run on the side. -/
def capture : Nat → Capture
  | 0, _, s => ([], s)
  | fuel + 1, script, s =>
      let (flow, inner) :=
        runText fuel (String.ofList script) { s with out := [], output := .out }
      let after := s.rejoin { inner with out := s.out } flow
      (inner.out, { after with onTheSide := some after.status })

def allArguments : Nat → List Word → Shell → List String × Shell
  | 0, _, s => ([], s)
  | fuel + 1, words, s => s.arguments (capture fuel) words

def runLoop : Nat → Bool → Command → Command → Nat → Shell → Effect
  | 0, _, _, _, _, s => (.exit (.code 125), s)
  | fuel + 1, expected, condition, body, status, s =>
      match run fuel condition s with
      | (.next, s) =>
          if (s.status == 0) = expected then
            match run fuel body s with
            | (flow, s) =>
                match round flow with
                | .again => runLoop fuel expected condition body s.status s
                | .stop flow => (flow, s)
          else (.next, s.withStatus status)
      | e => e

def runEach : Nat → String → List String → Command → Shell → Effect
  | 0, _, _, _, s => (.exit (.code 125), s)
  | _, _, [], _, s => (.next, s)
  | fuel + 1, name, v :: rest, body, s =>
      let (flow, s) := run fuel body (s.set name v)
      match round flow with
      | .again => runEach fuel name rest body s
      | .stop flow => (flow, s)

def runArms : Nat → List Char → List (List Word × Command) → Shell → Effect
  | 0, _, _, s => (.exit (.code 125), s)
  | _, _, [], s => s.ended 0
  | fuel + 1, text, (patterns, body) :: rest, s =>
      let (found, s) := anyFits fuel text patterns s
      if found then run fuel body (s.withStatus 0) else runArms fuel text rest s

def anyFits : Nat → List Char → List Word → Shell → Bool × Shell
  | 0, _, _, s => (false, s)
  | _, _, [], s => (false, s)
  | fuel + 1, text, w :: rest, s =>
      let (marks, s) := s.single (capture fuel) w
      if Glob.fits (Glob.ofMarks marks) text then (true, s) else anyFits fuel text rest s

/-- Expand, redirect and run a simple command. -/
def runSimple : Nat → Nat → List Word → List Redirect → Shell → Effect
  | 0, _, _, _, s => (.exit (.code 125), s)
  | fuel + 1, line, words, redirects, s =>
      let (assignments, words) := splitAssignments words
      let (args, s) := { s with onTheSide := none }.arguments (capture fuel) words
      match s.redirectAll (capture fuel) redirects with
      | (.error e, s) => (s.report line e).ended 2
      | (.ok inner, _) =>
          match args with
          | [] =>
              let inner := assign (capture fuel) assignments inner
              (inner.restore s).ended (inner.onTheSide.getD 0)
          | name :: args =>
              let inner := assign (capture fuel) assignments inner
              let (flow, inner) := invoke fuel line name args inner
              let inner := if specialBuiltins.contains name then inner
                else inner.unassign s (assignments.map (·.1))
              let input := if redirects.any (·.stream == 0) then s.input else inner.input
              (flow, { inner.restore s with input := input })

/-- Run a function, a built-in command or a program. -/
def invoke : Nat → Nat → String → List String → Shell → Effect
  | 0, _, _, _, s => (.exit (.code 125), s)
  | fuel + 1, line, name, args, s =>
      match (s.functions.find? fun f => f.1 == name), name, args with
      | some (_, body), _, args =>
          let (flow, inner) := run fuel body { s with params := args }
          (match flow with
            | .leaveFunction => .next
            | flow => flow, { inner with params := s.params })
      | none, "eval", args => runText fuel (" ".intercalate args) s
      | none, ".", file :: _ =>
          match s.disk.read s.here file with
          | .ok bs => runText fuel (Utf8.lossy bs) s
          | .error _ =>
              let s := s.report line (".: cannot open " ++ file ++ ": No such file")
              (.exit (.code 2), s.withStatus 2)
      | none, "exec", [] => s.ended 0
      | none, "exec", name :: args =>
          if programs.contains (programName name) then
            match invoke fuel line name args s with
            | (.next, s) => (.exit (.code s.status), s)
            | e => e
          else
            let (_, s) := s.missing line "exec: " name
            (.exit (.code s.status), s)
      | none, "command", "-v" :: name :: _ =>
          if plainBuiltins.contains name then (s.print (utf8 (name ++ "\n"))).ended 0
          else if programs.contains name then (s.print (utf8 ("/usr/bin/" ++ name ++ "\n"))).ended 0
          else s.ended 127
      | none, "command", "-V" :: name :: _ =>
          if plainBuiltins.contains name then
            (s.print (utf8 (name ++ " is a shell builtin\n"))).ended 0
          else if programs.contains name then
            (s.print (utf8 (name ++ " is /usr/bin/" ++ name ++ "\n"))).ended 0
          else (s.print (utf8 (name ++ ": not found\n"))).ended 127
      | none, "command", name :: args => invoke fuel line name args { s with functions := [] }
      | none, name, args =>
          match s.builtin? line name args with
          | some e => e
          | none =>
              match programName name, s.program? (programName name) args with
              | "sh", _ =>
                  let (e, inner) := runShell fuel args s
                  (.next, { s.rejoin inner .next with status := e.status })
              | _, some (_, inner) => (.next, s.rejoin inner .next)
              | _, none => s.missing line "" name

/-- Run a text as commands of this shell. -/
def runText : Nat → String → Shell → Effect
  | 0, _, s => (.exit (.code 125), s)
  | fuel + 1, text, s =>
      let (ts, last) := tokens text.toList
      runLines fuel last ts s

/-- Run lines of commands one after the other, up to the first that cannot be read. -/
def runLines : Nat → Nat → Tokens → Shell → Effect
  | 0, _, _, s => (.exit (.code 125), s)
  | _, _, [], s => (.next, s)
  | fuel + 1, last, ts, s =>
      match parseLine last ts with
      | .error e => (.exit (.code 2), s.report e.line e.text)
      | .ok (c, rest) =>
          match run fuel c s with
          | (.next, s) => runLines fuel last rest s
          | e => e

/-- A shell with arguments: a script and its parameters, or a file that holds one. -/
def runShell : Nat → List String → Shell → Exit × Shell
  | 0, _, s => (.code 125, s)
  | fuel + 1, args, s =>
      match args with
      | ["-c"] => (.code 2, s.report 0 "-c requires an argument")
      | "-c" :: text :: rest =>
          exitOf (runText fuel text { s with name := rest.headD "sh", params := rest.tail })
      | "-n" :: file :: _ =>
          match s.disk.read s.here file with
          | .ok bs =>
              let (ts, last) := tokens (Utf8.lossy bs).toList
              match firstError? last (ts.length + 1) ts with
              | none => (.code 0, s)
              | some e => (.code 2, { s with name := file }.report e.line e.text)
          | .error f => (.code 2, s.report 0 ("cannot open " ++ file ++ ": " ++ openFault false f))
      | file :: rest =>
          match s.disk.read s.here file with
          | .ok bs => exitOf (runText fuel (Utf8.lossy bs) { s with name := file, params := rest })
          | .error f => (.code 2, s.report 0 ("cannot open " ++ file ++ ": " ++ openFault false f))
      | [] => exitOf (runText fuel (Utf8.lossy s.input) { s with input := [] })
where
  exitOf : Effect → Exit × Shell
    | (.exit e, s) => (e, s)
    | (_, s) => (.code s.status, s)

end

end Shell

namespace Disk

/-- Steps that a process may take. -/
def processFuel : Nat := 20000

/-- The fault that keeps a program from being started. -/
def programFault? (d : Disk) (here : Path) (name : String) : Option FileFault :=
  if Shell.programs.contains (Shell.programName name) then none
  else if name.contains '/' then
    match d.resolve here name with
    | .error f => some f
    | .ok p => if (d.get? p).isSome then some .permissionDenied else some .notFound
  else some .notFound

/-- Run one of the programs of the machine in a directory, with nothing to read. -/
def launch : Launcher := fun d directory name args =>
  if (directory :: name :: args).any hasNul then .error .nulInArgument
  else
    match d.resolve [] directory with
    | .error f => .error f
    | .ok here =>
        match d.get? here with
        | none => .error .notFound
        | some (.file _) => .error .notDirectory
        | some .directory =>
            match d.programFault? here name with
            | some f => .error f
            | none =>
                let s : Shell := { disk := d, here := here, name := "sh" }
                let (e, s) := match Shell.programName name with
                  | "sh" => s.runShell processFuel args
                  | program =>
                      match s.program? program args with
                      | some (_, s) => (.code s.status, s)
                      | none => (.code 127, s)
                .ok (⟨e, s.out, s.err, s.elapsed⟩, s.disk)

end Disk

end NotebookKernel
