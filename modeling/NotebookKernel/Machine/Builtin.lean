import NotebookKernel.Machine.Shell

/-!
# Commands that need no process

Built-in commands of the shell, and the small programs that a machine comes with.
-/

namespace NotebookKernel

/-- A signal by its name, with or without its first three letters, or by its number. -/
def signal? (text : String) : Option Nat :=
  match text.toNat? with
  | some n => if n < 32 then some n else none
  | none =>
      let upper := text.toUpper
      let bare := if upper.startsWith "SIG" then String.ofList (upper.toList.drop 3) else upper
      (signalNames.findIdx? fun n => n == bare).map (· + 1)

/-- A signal that a process does not notice. -/
def isHarmless (n : Nat) : Bool := [0, 17, 18, 23, 28].contains n

namespace Shell

/-- What a command does to the shell, and how the script goes on. -/
abbrev Effect := Flow × Shell

def ended (s : Shell) (n : Nat) : Effect := (.next, s.withStatus n)

def echo (s : Shell) (args : List String) : Effect :=
  let (line, args) := match args with
    | "-n" :: rest => (false, rest)
    | args => (true, args)
  let (bs, stopped) := Format.withEscapes (" ".intercalate args)
  (s.print (bs ++ if line ∧ !stopped then [10] else [])).ended 0

/-- The entry that a path leads to. -/
def entry? (s : Shell) (text : String) : Option Entry :=
  match s.disk.resolve s.here text with
  | .ok p => s.disk.get? p
  | .error _ => none

/-- A comparison of texts or numbers, if the sign in the middle is one. -/
def compare? (a sign b : String) : Option (Except String Bool) :=
  let numbers (holds : Int → Int → Bool) : Option (Except String Bool) :=
    some (match number? a, number? b with
      | some m, some n => .ok (holds m n)
      | none, _ => .error ("Illegal number: " ++ a)
      | _, none => .error ("Illegal number: " ++ b))
  match sign with
  | "=" => some (.ok (a == b))
  | "!=" => some (.ok (a != b))
  | "-eq" => numbers fun m n => m == n
  | "-ne" => numbers fun m n => m != n
  | "-lt" => numbers fun m n => m < n
  | "-le" => numbers fun m n => m ≤ n
  | "-gt" => numbers fun m n => n < m
  | "-ge" => numbers fun m n => n ≤ m
  | "-a" => some (.ok (a != "" && b != ""))
  | "-o" => some (.ok (a != "" || b != ""))
  | _ => none
where
  number? (text : String) : Option Int :=
    let text := text.trimAscii.toString
    if text = "" ∨ (Format.leftover text) ≠ [] then none else some (Format.integer text)

/-- What a sign says of a text or of the entry that it leads to; none if it is no such sign. -/
def check? (s : Shell) (sign a : String) : Option Bool :=
  match sign with
  | "!" => some (a == "")
  | "-n" => some (a != "")
  | "-z" => some (a == "")
  | "-e" => some (s.entry? a).isSome
  | "-r" => some (s.entry? a).isSome
  | "-f" => some ((s.entry? a).any (· != .directory))
  | "-d" => some (s.entry? a == some .directory)
  | "-s" => some ((s.entry? a).any (· != .file []))
  | _ => none

def noOperator {α : Type} (a : String) : Except String α := .error (a ++ ": unexpected operator")

/-- Does an expression of `test` hold? -/
def judge (s : Shell) : List String → Except String Bool
  | [] => .ok false
  | [a] => .ok (a != "")
  | [sign, a] =>
      match s.check? sign a with
      | some holds => .ok holds
      | none => noOperator sign
  | [a, sign, b] =>
      match compare? a sign b, s.check? sign b with
      | some r, _ => r
      | none, some holds => if a = "!" then .ok (!holds) else noOperator a
      | none, none => noOperator a
  | "!" :: rest => (s.judge rest).map (!·)
  | a :: sign :: b :: joint :: rest =>
      match compare? a sign b, s.judge rest with
      | none, _ => noOperator a
      | some (.error e), _ => .error e
      | _, .error e => .error e
      | some (.ok p), .ok q =>
          if joint = "-a" then .ok (p && q)
          else if joint = "-o" then .ok (p || q)
          else noOperator joint

def test (s : Shell) (line : Nat) (name : String) (args : List String) : Effect :=
  match s.judge args with
  | .ok true => s.ended 0
  | .ok false => s.ended 1
  | .error e => (s.report line (name ++ ": " ++ e)).ended 2

/-- The first line of the input, and the rest; none at the end. -/
def takeLine (bs : Bytes) : Option (Bytes × Bool × Bytes) :=
  if bs = [] then none
  else
    let line := bs.takeWhile (· != 10)
    let rest := bs.drop line.length
    some (line, rest != [], rest.drop 1)

/-- Give the words of a line to names; the last one gets what is left. -/
def giveWords (s : Shell) : List String → List Char → Shell
  | [], _ => s
  | [name], cs =>
      let body := (cs.dropWhile isSpace).reverse.dropWhile isSpace
      s.set name (String.ofList body.reverse)
  | name :: names, cs =>
      let cs := cs.dropWhile isSpace
      let word := cs.takeWhile fun c => !isSpace c
      (s.set name (String.ofList word)).giveWords names (cs.drop word.length)

/-- Backslashes in a line that is not read raw. -/
def unescape : List Char → List Char
  | '\\' :: c :: cs => c :: unescape cs
  | c :: cs => c :: unescape cs
  | [] => []

def readLine (s : Shell) (args : List String) : Effect :=
  let (raw, names) := match args with
    | "-r" :: rest => (true, rest)
    | args => (false, args)
  match takeLine s.input with
  | none => (names.foldl (fun s n => s.set n "") s).ended 1
  | some (line, whole, rest) =>
      let cs := (Utf8.lossy line).toList
      let s := ({ s with input := rest }.giveWords names (if raw then cs else unescape cs))
      s.ended (if whole then 0 else 1)

/-- Send a signal. Only this process can be reached. -/
def kill (s : Shell) (line : Nat) (args : List String) : Effect :=
  let (signal, targets) := match args with
    | "-s" :: name :: rest => (signal? name, rest)
    | a :: rest =>
        if a.startsWith "-" ∧ a.length > 1 then (signal? (String.ofList (a.toList.drop 1)), rest)
        else (some 15, a :: rest)
    | [] => (some 15, [])
  match signal with
  | none =>
      let option := String.ofList (((args.headD "").toList.drop 1).take 1)
      (s.report line ("kill: Illegal option -" ++ option)).ended 2
  | some n =>
      if targets.contains processNumber then
        if isHarmless n || (s.ignored.contains n && n != 9) then s.ended 0
        else (.exit (.signal n), s)
      else
        match targets.find? fun t => t.toNat?.isNone with
        | some t => (s.report line ("kill: Illegal number: " ++ t)).ended 2
        | none => (s.report line "kill: No such process").ended 1

/-- Say which signals are to be ignored. -/
def trap (s : Shell) (args : List String) : Effect :=
  match args with
  | "" :: names => { s with ignored := names.filterMap signal? ++ s.ignored }.ended 0
  | _ :: names =>
      { s with ignored := s.ignored.filter fun n => !(names.filterMap signal?).contains n }.ended 0
  | [] => s.ended 0

def changeDirectory (s : Shell) (line : Nat) (text : String) : Effect :=
  match s.disk.resolve s.here text with
  | .ok p =>
      if s.disk.isDirectory p then { s with here := p }.ended 0
      else (s.report line ("cd: can't cd to " ++ text)).ended 2
  | .error _ => (s.report line ("cd: can't cd to " ++ text)).ended 2

/-- Assignments written as arguments. -/
def assignAll (s : Shell) (args : List String) : Effect :=
  (args.foldl (fun s a =>
    let name := a.toList.takeWhile (· != '=')
    match a.toList.drop name.length with
    | '=' :: value => s.set (String.ofList name) (String.ofList value)
    | _ => s) s).ended 0

/-- Names that the shell serves itself, apart from those that run other commands. -/
def plainBuiltins : List String :=
  [":", "true", "false", "echo", "printf", "read", "exit", "return", "break", "continue", "cd",
    "pwd", "export", "unset", "set", "shift", "kill", "trap", "test", "[", "umask", "wait"]

def count (args : List String) : Nat := ((args.head?).bind String.toNat?).getD 1

/-- The status that an argument names, or else the present one. -/
def statusArgument (s : Shell) (args : List String) : Option Nat :=
  match args.head? with
  | some a => a.toNat?
  | none => some s.status

/-- An argument that should be a number ends the script. -/
def illegalNumber (s : Shell) (line : Nat) (name : String) (args : List String) : Effect :=
  (.exit (.code 2), s.report line (name ++ ": Illegal number: " ++ args.headD ""))

/-- Print arguments in a format. -/
def formatted (s : Shell) (line : Nat) (format : String) (args : List String) : Effect :=
  let p := Format.printed format args
  let s := p.faults.foldl (fun s f => s.report line ("printf: " ++ f)) (s.print p.out)
  s.ended (if p.broken then 2 else if p.faults = [] then 0 else 1)

/-- A built-in command; none if there is none of that name. -/
def builtin? (s : Shell) (line : Nat) (name : String) (args : List String) : Option Effect :=
  match name with
  | ":" => some (s.ended 0)
  | "true" => some (s.ended 0)
  | "false" => some (s.ended 1)
  | "echo" => some (s.echo args)
  | "printf" =>
      match args with
      | [] => some ((s.report line "printf: usage: printf format [arg ...]").ended 2)
      | "--" :: format :: args => some (s.formatted line format args)
      | format :: args => some (s.formatted line format args)
  | "read" => some (s.readLine args)
  | "exit" =>
      some (match s.statusArgument args with
        | some n => (.exit (.code (n % 256)), s)
        | none => s.illegalNumber line name args)
  | "return" =>
      some (match s.statusArgument args with
        | some n => (.leaveFunction, s.withStatus (n % 256))
        | none => s.illegalNumber line name args)
  | "break" =>
      some (if s.loops = 0 then s.ended 0
        else (.leaveLoop (min (count args) s.loops), s.withStatus 0))
  | "continue" =>
      some (if s.loops = 0 then s.ended 0
        else (.nextRound (min (count args) s.loops), s.withStatus 0))
  | "cd" => some (s.changeDirectory line (args.headD (s.value "HOME")))
  | "pwd" => some ((s.print (utf8 (Disk.text s.here ++ "\n"))).ended 0)
  | "export" => some (s.assignAll args)
  | "unset" =>
      some ({ s with bindings := s.bindings.filter fun v => !args.contains v.1 }.ended 0)
  | "set" =>
      match args with
      | "--" :: params => some ({ s with params := params }.ended 0)
      | _ => some (s.ended 0)
  | "shift" =>
      if s.params.length < count args then
        some (.exit (.code 2), s.report line "shift: can't shift that many")
      else some ({ s with params := s.params.drop (count args) }.ended 0)
  | "kill" => some (s.kill line args)
  | "trap" => some (s.trap args)
  | "test" => some (s.test line name args)
  | "[" =>
      if args.getLast? = some "]" then some (s.test line name args.dropLast)
      else some ((s.report line "[: missing ]").ended 2)
  | "umask" => some ((s.print (utf8 (if args = [] then "0022\n" else ""))).ended 0)
  | "wait" => some (s.ended 0)
  | _ => none

/-- The words for a file that a program cannot read. -/
def fileFault : FileFault → String
  | .notFound => "No such file or directory"
  | .isDirectory => "Is a directory"
  | .notDirectory => "Not a directory"
  | .permissionDenied => "Permission denied"
  | .nameTooLong => "File name too long"
  | .nulInName | .nulInArgument | .notUtf8 => "Invalid argument"

/-- Copy files, or the input, to the output. -/
def catenate (s : Shell) : List String → Effect
  | [] => ({ s with input := [] }.print s.input).ended 0
  | args => go s 0 args
where
  go (s : Shell) (status : Nat) : List String → Effect
    | [] => s.ended status
    | "-" :: rest => go ({ s with input := [] }.print s.input) status rest
    | a :: rest =>
        match s.disk.read s.here a with
        | .ok bs => go (s.print bs) status rest
        | .error f => go (s.complain ("cat: " ++ a ++ ": " ++ fileFault f)) 1 rest

/-- List the visible names in directories. -/
def listFiles (s : Shell) (args : List String) : Effect :=
  let visible (p : Path) : Bytes :=
    ((s.disk.list p).filter fun n => !n.startsWith ".").flatMap fun n => utf8 (n ++ "\n")
  match args.filter fun a => !a.startsWith "-" with
  | [] => (s.print (visible s.here)).ended 0
  | targets =>
      targets.foldl (fun (_, s) a =>
        match s.disk.resolve s.here a with
        | .error f =>
            (s.complain ("ls: cannot access '" ++ a ++ "': " ++ fileFault f)).ended 2
        | .ok p =>
            match s.disk.get? p with
            | none =>
                (s.complain ("ls: cannot access '" ++ a ++ "': " ++ fileFault .notFound)).ended 2
            | some .directory => (s.print (visible p)).ended s.status
            | some (.file _) => (s.print (utf8 (a ++ "\n"))).ended s.status) (s.ended 0)

/-- Seconds with decimals, in milliseconds. -/
def seconds (text : String) : Nat :=
  match text.splitOn "." with
  | [whole] => 1000 * whole.toNat?.getD 0
  | [whole, part] =>
      let thousandths := String.ofList ((part.toList ++ ['0', '0', '0']).take 3)
      1000 * whole.toNat?.getD 0 + thousandths.toNat?.getD 0
  | _ => 0

/-- Let the named times pass, one after the other. -/
def pause (s : Shell) (args : List String) : Effect :=
  let total := args.foldl (fun total a => total + seconds a) 0
  { s with elapsed := s.elapsed + total }.ended 0

/-- Create the files that are not there. -/
def touch (s : Shell) (args : List String) : Effect :=
  (args.foldl (fun s a =>
    match s.disk.read s.here a with
    | .ok _ => s
    | .error _ =>
        match s.disk.write s.here a [] with
        | .ok (_, disk) => { s with disk := disk }
        | .error _ => s) s).ended 0

/-- Create directories, with `-p` also those above them. -/
def makeDirectories (s : Shell) (args : List String) : Effect :=
  let above := args.contains "-p"
  (args.filter fun a => !a.startsWith "-").foldl (fun (_, s) a =>
    let fail (f : String) : Effect :=
      (s.complain ("mkdir: cannot create directory '" ++ a ++ "': " ++ f)).ended 1
    if above then
      let here := if a.startsWith "/" then [] else s.here
      let names := (Disk.names a).filter fun n => n != "" && n != "."
      { s with disk := s.disk.makeDirectory (here ++ names) }.ended s.status
    else
      match s.disk.resolve s.here a with
      | .error f => fail (fileFault f)
      | .ok p =>
          if (s.disk.get? p).isSome then fail "File exists"
          else { s with disk := s.disk.put p .directory }.ended s.status) (s.ended 0)

/-- Remove files, with `-r` also directories. With `-f` there may be nothing to remove. -/
def remove (s : Shell) (args : List String) : Effect :=
  let options := (args.filter fun a => a.startsWith "-").flatMap String.toList
  (args.filter fun a => !a.startsWith "-").foldl (fun (_, s) a =>
    let fail (f : FileFault) : Effect :=
      if options.contains 'f' ∧ f ≠ .isDirectory then s.ended s.status
      else (s.complain ("rm: cannot remove '" ++ a ++ "': " ++ fileFault f)).ended 1
    match s.disk.resolve s.here a with
    | .error f => fail f
    | .ok p =>
        match s.disk.get? p with
        | none => fail .notFound
        | some .directory =>
            if options.contains 'r' then { s with disk := s.disk.erase p }.ended s.status
            else fail .isDirectory
        | some (.file _) => { s with disk := s.disk.erase p }.ended s.status) (s.ended 0)

/-- The lines of a text without their ends; what follows the last end is a line if not empty. -/
def linesOf (bs : Bytes) : List Bytes :=
  match (bs.splitOn 10).reverse with
  | [] :: rest => rest.reverse
  | lines => lines.reverse

/-- The bytes of the named file, or the whole input when no file is named. -/
def source (s : Shell) : Option String → Except FileFault (Bytes × Shell)
  | some file => (s.disk.read s.here file).map fun bs => (bs, s)
  | none => .ok (s.input, { s with input := [] })

/-- Print the lines in the order of their bytes, each with an end. -/
def sortLines (s : Shell) (file : Option String) : Effect :=
  match s.source file with
  | .ok (bs, s) =>
      let sorted := (linesOf bs).mergeSort fun a b => !b.lex a fun x y => x < y
      (s.print (sorted.flatMap (· ++ [10]))).ended 0
  | .error f =>
      (s.complain ("sort: cannot read: " ++ file.getD "-" ++ ": " ++ fileFault f)).ended 2

/-- Print the first `n` lines as they stand. -/
def firstLines (s : Shell) (n : Nat) (file : Option String) : Effect :=
  match s.source file with
  | .ok (bs, s) =>
      let pieces := bs.splitOn 10
      let first := if n < pieces.length then (pieces.take n).flatMap (· ++ [10]) else bs
      (s.print first).ended 0
  | .error f =>
      (s.complain ("head: cannot open '" ++ file.getD "-" ++ "' for reading: "
        ++ fileFault f)).ended 1

/-- The programs of the machine that do not run others. -/
def program? (s : Shell) (name : String) (args : List String) : Option Effect :=
  match name with
  | "cat" => some (s.catenate args)
  | "ls" => some (s.listFiles args)
  | "sleep" => some (s.pause args)
  | "touch" => some (s.touch args)
  | "mkdir" => some (s.makeDirectories args)
  | "rm" => some (s.remove args)
  | "sort" => some (s.sortLines args.head?)
  | "head" =>
      match args with
      | "-n" :: n :: rest => some (s.firstLines (n.toNat?.getD 10) rest.head?)
      | rest => some (s.firstLines 10 rest.head?)
  | "echo" => some (s.echo args)
  | "printf" => s.builtin? 0 "printf" args
  | "true" => some (s.ended 0)
  | "false" => some (s.ended 1)
  | "test" => s.builtin? 0 "test" args
  | "[" => s.builtin? 0 "[" args
  | "pwd" => s.builtin? 0 "pwd" args
  | _ => none

def programs : List String :=
  ["cat", "ls", "sleep", "touch", "mkdir", "rm", "sort", "head", "echo", "printf", "true", "false",
    "test", "[", "pwd", "sh"]

end Shell

end NotebookKernel
