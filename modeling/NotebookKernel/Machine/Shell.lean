import NotebookKernel.Machine.Format
import NotebookKernel.Machine.Glob
import NotebookKernel.Machine.Process
import NotebookKernel.Machine.Script

/-!
# The state of a shell

What a running script has: files, parameters, streams. Words are expanded here; running
commands is the matter of `Machine.Run`.
-/

namespace NotebookKernel

open ShellScript

/-- The status that a shell sees. -/
def Exit.status : Exit → Nat
  | code n => n
  | signal n => 128 + n

/-- Where output goes. -/
inductive Sink where
  | out
  | err
  | file (p : Path)
  | nowhere
  deriving DecidableEq, Repr

structure Shell where
  disk : Disk
  here : Path
  /-- The name under which the script runs. -/
  name : String
  params : List String := []
  bindings : List (String × String) := []
  functions : List (String × Command) := []
  ignored : List Nat := []
  status : Nat := 0
  input : Bytes := []
  out : Bytes := []
  err : Bytes := []
  output : Sink := .out
  errors : Sink := .err
  /-- The milliseconds that were slept. -/
  elapsed : Nat := 0
  /-- How many loops surround the command that is run. -/
  loops : Nat := 0
  /-- The status of the last script that was run for its output, within one command. -/
  onTheSide : Option Nat := none

/-- How a script goes on after a command. -/
inductive Flow where
  | next
  | exit (e : Exit)
  | leaveLoop (levels : Nat)
  | nextRound (levels : Nat)
  | leaveFunction
  deriving DecidableEq, Repr

namespace Shell

/-- The number that a process is known by. -/
def processNumber : String := "4711"

def send (s : Shell) (sink : Sink) (bs : Bytes) : Shell :=
  match sink with
  | .out => { s with out := s.out ++ bs }
  | .err => { s with err := s.err ++ bs }
  | .nowhere => s
  | .file p =>
      let old := match s.disk.get? p with
        | some (.file content) => content
        | _ => []
      { s with disk := s.disk.put p (.file (old ++ bs)) }

def print (s : Shell) (bs : Bytes) : Shell := s.send s.output bs

def complain (s : Shell) (text : String) : Shell := s.send s.errors (utf8 (text ++ "\n"))

/-- Complain about a line of the script. -/
def report (s : Shell) (line : Nat) (text : String) : Shell :=
  s.complain (s.name ++ ": " ++ toString line ++ ": " ++ text)

def withStatus (s : Shell) (n : Nat) : Shell := { s with status := n }

def set (s : Shell) (name value : String) : Shell :=
  { s with bindings := (name, value) :: s.bindings.filter fun v => v.1 != name }

/-- The value of a parameter, if it is set. -/
def value? (s : Shell) (name : String) : Option String :=
  match name with
  | "?" => some (toString s.status)
  | "#" => some (toString s.params.length)
  | "$" => some processNumber
  | "@" => if s.params = [] then none else some (" ".intercalate s.params)
  | "*" => if s.params = [] then none else some (" ".intercalate s.params)
  | "-" => some ""
  | "0" => some s.name
  | name =>
      match name.toNat? with
      | some n => s.params[n - 1]?
      | none => (s.bindings.find? fun v => v.1 == name).map (·.2)

def value (s : Shell) (name : String) : String := (s.value? name).getD ""

def isSpace (c : Char) : Bool := c == ' ' || c == '\t' || c == '\n'

/-- A field that is being put together, if there is one, and the fields before it. -/
structure Fields where
  done : List (List Glob.Mark)
  open? : Option (List Glob.Mark)

namespace Fields

def none : Fields := ⟨[], .none⟩

def add (f : Fields) (quoted : Bool) (cs : List Char) : Fields :=
  { f with open? := some ((f.open?.getD []) ++ cs.map fun c => ⟨c, quoted⟩) }

def close (f : Fields) : Fields :=
  match f.open? with
  | .none => f
  | some marks => ⟨f.done ++ [marks], .none⟩

/-- Add a value that was not quoted; blanks in it part fields. -/
def addSplit (f : Fields) : List Char → Fields
  | [] => f
  | c :: cs => if isSpace c then f.close.addSplit cs else (f.add false [c]).addSplit cs

/-- Add values each of which is a field, apart from the first and the last. -/
def addAll (f : Fields) : List String → Fields
  | [] => f
  | [v] => f.add true v.toList
  | v :: rest => (f.add true v.toList).close.addAll rest

def toList (f : Fields) : List (List Glob.Mark) := f.close.done

end Fields

/-- An integer expression of sums, products and parentheses. The number stands for the operators
that may still bind: 0 all, 1 products, 2 none. -/
def arithmetic (s : Shell) : Nat → Nat → List Char → Int × List Char
  | 0, _, cs => (0, cs)
  | fuel + 1, level, cs =>
      let cs := cs.dropWhile isSpace
      if level = 2 then
        match cs with
        | '-' :: cs =>
            let (n, rest) := arithmetic s fuel 2 cs
            (-n, rest)
        | '(' :: cs =>
            let (n, rest) := arithmetic s fuel 0 cs
            (n, (rest.dropWhile isSpace).drop 1)
        | '$' :: cs => arithmetic s fuel 2 cs
        | c :: cs =>
            if c.isDigit then
              let ds := (c :: cs).takeWhile isNameCharacter
              (Format.integer (String.ofList ds), (c :: cs).drop ds.length)
            else
              let name := (c :: cs).takeWhile isNameCharacter
              (Format.integer (s.value (String.ofList name)), (c :: cs).drop (max 1 name.length))
        | [] => (0, [])
      else
        let (first, rest) := arithmetic s fuel (level + 1) cs
        tail fuel level first rest
where
  tail : Nat → Nat → Int → List Char → Int × List Char
    | 0, _, n, cs => (n, cs)
    | fuel + 1, level, n, cs =>
        match cs.dropWhile isSpace with
        | c :: rest =>
            if (level = 0 ∧ (c = '+' ∨ c = '-')) ∨ (level = 1 ∧ (c = '*' ∨ c = '/' ∨ c = '%')) then
              let (m, rest) := arithmetic s fuel (level + 1) rest
              let n := match c with
                | '+' => n + m
                | '-' => n - m
                | '*' => n * m
                | '/' => n.tdiv m
                | _ => n.tmod m
              tail fuel level n rest
            else (n, c :: rest)
        | [] => (n, [])

/-- Runs a script and gives its output. -/
abbrev Capture := List Char → Shell → Bytes × Shell

/-- Output without the line ends behind it. -/
def captured (bs : Bytes) : List Char :=
  ((Utf8.lossy bs).toList.reverse.dropWhile (· == '\n')).reverse

/-- Cut off a part that a pattern fits: the shortest one at the end if all are tried, or the
longest. -/
def cutFitting (atEnd longest : Bool) (pattern : List Glob.Item) (value : List Char) : List Char :=
  let lengths := List.range (value.length + 1)
  let lengths := if longest then lengths.reverse else lengths
  let fitting := lengths.find? fun n =>
    Glob.fits pattern (if atEnd then value.drop (value.length - n) else value.take n)
  match fitting with
  | none => value
  | some n => if atEnd then value.take (value.length - n) else value.drop n

/-- Parameters may have parameters in their words, up to a depth. -/
def expandPart (capture : Capture) (s : Shell) : Nat → Part → List Char × Shell
  | _, .text t => (t.toList, s)
  | _, .parameter name => ((s.value name).toList, s)
  | _, .size name => ((toString (s.value name).length).toList, s)
  | _, .output script =>
      let (bs, s) := capture script s
      (captured bs, s)
  | _, .sum expression =>
      ((toString (arithmetic s (4 * expression.length + 8) 0 expression).1).toList, s)
  | 0, .treated name _ _ => ((s.value name).toList, s)
  | depth + 1, .treated name how word =>
      let present (empty : Bool) : Bool :=
        match s.value? name with
        | none => false
        | some v => !(empty && v == "")
      let marks (s : Shell) : List Glob.Mark × Shell :=
        (Word.ofText false word).foldl (fun (ms, s) f =>
          let (cs, s) := expandPart capture s depth f.part
          (ms ++ cs.map fun c => ⟨c, f.quoted⟩, s)) ([], s)
      let text (s : Shell) : List Char × Shell :=
        let (ms, s) := marks s
        (ms.map (·.char), s)
      match how with
      | .fallback empty => if present empty then ((s.value name).toList, s) else text s
      | .replacement empty => if present empty then text s else ([], s)
      | .default empty =>
          if present empty then ((s.value name).toList, s)
          else
            let (cs, s) := text s
            (cs, s.set name (String.ofList cs))
      | .cut atEnd longest =>
          let (ms, s) := marks s
          (cutFitting atEnd longest (Glob.ofMarks ms) (s.value name).toList, s)

/-- How deep words may be nested in parameters. -/
def nesting : Nat := 16

def expandInto (capture : Capture) : Word → Fields → Shell → Fields × Shell
  | [], f, s => (f, s)
  | ⟨quoted, part⟩ :: rest, f, s =>
      match quoted, part with
      | true, .parameter "@" => expandInto capture rest (f.addAll s.params) s
      | true, part =>
          let (cs, s) := expandPart capture s nesting part
          expandInto capture rest (f.add true cs) s
      | false, .text t => expandInto capture rest (f.add false t.toList) s
      | false, part =>
          let (cs, s) := expandPart capture s nesting part
          expandInto capture rest (f.addSplit cs) s

/-- A word that asks for all parameters and gives nothing if there are none. -/
def allParameters : Word := [⟨true, .text ""⟩, ⟨true, .parameter "@"⟩]

/-- The fields of a word. -/
def expand (capture : Capture) (w : Word) (s : Shell) : List (List Glob.Mark) × Shell :=
  if w = allParameters ∧ s.params = [] then ([], s)
  else
    let (f, s) := expandInto capture w .none s
    (f.toList, s)

def unmarked (marks : List Glob.Mark) : String := String.ofList (marks.map (·.char))

/-- The names of the files that a pattern fits, or the pattern if there are none. -/
def names (s : Shell) (marks : List Glob.Mark) : List String :=
  let items := Glob.ofMarks marks
  if !Glob.isProper items || marks.any fun m => m.char == '/' then [unmarked marks]
  else
    let found := (s.disk.list s.here).filter fun n =>
      (!n.startsWith "." || (marks.head?.map (·.char)) == some '.') && Glob.fits items n.toList
    if found = [] then [unmarked marks] else found

/-- The arguments that words stand for. -/
def arguments (capture : Capture) : List Word → Shell → List String × Shell
  | [], s => ([], s)
  | w :: ws, s =>
      let (fields, s) := expand capture w s
      let args := fields.flatMap s.names
      let (rest, s) := arguments capture ws s
      (args ++ rest, s)

/-- A word as one text. -/
def single (capture : Capture) (w : Word) (s : Shell) : List Glob.Mark × Shell :=
  let rec go : Word → Shell → List Glob.Mark × Shell
    | [], s => ([], s)
    | ⟨quoted, part⟩ :: rest, s =>
        let (cs, s) := expandPart capture s nesting part
        let (more, s) := go rest s
        (cs.map (fun c => ⟨c, quoted⟩) ++ more, s)
  go w s

/-- A name and the word that is assigned to it. -/
def assignment? (w : Word) : Option (String × Word) :=
  match w with
  | ⟨false, .text t⟩ :: rest =>
      let name := t.toList.takeWhile isNameCharacter
      match name, t.toList.drop name.length with
      | c :: _, '=' :: value =>
          if isNameStart c then
            some (String.ofList name,
              (if value = [] then [] else [⟨false, .text (String.ofList value)⟩]) ++ rest)
          else none
      | _, _ => none
  | _ => none

/-- The assignments at the front of a command, and the words after them. -/
def splitAssignments : List Word → List (String × Word) × List Word
  | [] => ([], [])
  | w :: ws =>
      match assignment? w with
      | some a =>
          let (as, rest) := splitAssignments ws
          (a :: as, rest)
      | none => ([], w :: ws)

def assign (capture : Capture) : List (String × Word) → Shell → Shell
  | [], s => s
  | (name, w) :: rest, s =>
      let (v, s) := single capture w s
      assign capture rest (s.set name (unmarked v))

/-- The words for a file that cannot be opened or created. -/
def openFault (creating : Bool) : FileFault → String
  | .notFound => if creating then "Directory nonexistent" else "No such file"
  | .isDirectory => "Is a directory"
  | .notDirectory => "Not a directory"
  | .permissionDenied => "Permission denied"
  | .nameTooLong => "File name too long"
  | .nulInName | .nulInArgument | .notUtf8 => "Invalid argument"

def setStream (s : Shell) (stream : Nat) (sink : Sink) : Shell :=
  if stream = 1 then { s with output := sink }
  else if stream = 2 then { s with errors := sink } else s

/-- Apply a redirection; the complaint if it cannot be done. -/
def redirect (s : Shell) (stream : Nat) (operator target : String) : Except String Shell :=
  if operator = "<<" then .ok { s with input := utf8 target }
  else if operator = "<" then
    if target = "/dev/null" then .ok { s with input := [] }
    else
      match s.disk.read s.here target with
      | .ok bs => .ok { s with input := bs }
      | .error f => .error ("cannot open " ++ target ++ ": " ++ openFault false f)
  else if operator = ">&" then
    match target with
    | "1" => .ok (s.setStream stream s.output)
    | "2" => .ok (s.setStream stream s.errors)
    | "-" => .ok (s.setStream stream .nowhere)
    | _ =>
        if target.toList.all Char.isDigit then .error (target ++ ": Bad file descriptor")
        else .error "Bad fd number"
  else if target = "/dev/null" then .ok (s.setStream stream .nowhere)
  else if target = "/dev/stdout" then .ok (s.setStream stream s.output)
  else if target = "/dev/stderr" then .ok (s.setStream stream s.errors)
  else
    let old := match operator, s.disk.read s.here target with
      | ">>", .ok bs => bs
      | _, _ => []
    match s.disk.write s.here target old with
    | .ok (p, disk) => .ok ({ s with disk := disk }.setStream stream (.file p))
    | .error f => .error ("cannot create " ++ target ++ ": " ++ openFault true f)

def redirectAll (capture : Capture) : List Redirect → Shell → Except String Shell × Shell
  | [], s => (.ok s, s)
  | r :: rest, s =>
      let (target, s) := single capture r.target s
      match s.redirect r.stream r.operator (unmarked target) with
      | .error e => (.error e, s)
      | .ok s => redirectAll capture rest s

/-- Give the streams back that another state of the shell had. -/
def restore (s old : Shell) : Shell :=
  { s with output := old.output, errors := old.errors }

end Shell

end NotebookKernel
