import NotebookKernel.Machine.Word

/-!
# Shell scripts

The commands of a script, and how they are read from tokens. Words such as `if` are
reserved where a command may begin, and nowhere else.

A script is read one complete line of commands at a time, so that what comes before an
error has been run when the error is found.
-/

namespace NotebookKernel.ShellScript

structure Redirect where
  stream : Nat
  operator : String
  target : Word
  deriving DecidableEq, Repr

inductive Command where
  | skip
  | simple (line : Nat) (words : List Word) (redirects : List Redirect)
  | seq (first second : Command)
  | both (first second : Command)
  | either (first second : Command)
  | pipe (first second : Command)
  | negated (c : Command)
  | branch (condition yes no : Command)
  | loop (expected : Bool) (condition body : Command)
  | each (name : String) (words : Option (List Word)) (body : Command)
  | select (subject : Word) (arms : List (List Word × Command))
  | define (name : String) (body : Command)
  | subshell (c : Command)
  | redirected (line : Nat) (c : Command) (redirects : List Redirect)

/-- Why a script cannot be read, and on which line. -/
structure SyntaxError where
  line : Nat
  text : String
  deriving DecidableEq, Repr

abbrev Tokens := List (Token × Nat)

/-- Words that are reserved where a command may begin. -/
def reserved : List String :=
  ["!", "case", "do", "done", "elif", "else", "esac", "fi", "for", "if", "in", "then", "until",
    "while", "\x7b", "\x7d"]

def inMarks (s : String) : String := "\"" ++ s ++ "\""

def Token.describe : Token → String
  | word w =>
      match bare? w with
      | some s => if reserved.contains s then inMarks s else "word"
      | none => "word"
  | operator s => inMarks s
  | redirect _ _ => "redirection"
  | newline => "newline"
  | fault s => s

/-- The complaint about the token at the front. -/
def unexpected {α : Type} (last : Nat) (expected : Option String) (ts : Tokens) :
    Except SyntaxError α :=
  let tail := match expected with
    | some e => " unexpected (expecting " ++ e ++ ")"
    | none => " unexpected"
  match ts with
  | [] => .error ⟨last, "Syntax error: end of file" ++ tail⟩
  | (.fault text, line) :: _ => .error ⟨line, text⟩
  | (t, line) :: _ => .error ⟨line, "Syntax error: " ++ t.describe ++ tail⟩

/-- The line of the token at the front. -/
def lineOf (last : Nat) (ts : Tokens) : Nat := (ts.head?.map (·.2)).getD last

/-- The word at the front, if it is not quoted. -/
def keyword? : Tokens → Option String
  | (.word w, _) :: _ => bare? w
  | _ => none

/-- Words that end a list of commands. -/
def closers : List String := ["then", "else", "elif", "fi", "do", "done", "esac", "\x7d"]

def dropNewlines : Tokens → Tokens
  | (.newline, _) :: ts => dropNewlines ts
  | ts => ts

/-- Is the list of commands at its end? -/
def atEnd (ts : Tokens) : Bool :=
  match ts with
  | [] => true
  | (.operator op, _) :: _ => op == ")" || op == ";;"
  | ts => (keyword? ts).any closers.contains

def expectWord (last : Nat) (w : String) (ts : Tokens) : Except SyntaxError Tokens :=
  if keyword? ts = some w then .ok ts.tail else unexpected last (some (inMarks w)) ts

def expectOperator (last : Nat) (op : String) (ts : Tokens) : Except SyntaxError Tokens :=
  match ts with
  | (.operator found, l) :: rest =>
      if found = op then .ok rest
      else unexpected last (some (inMarks op)) ((.operator found, l) :: rest)
  | ts => unexpected last (some (inMarks op)) ts

/-- Redirections at the front. -/
def readRedirects (last : Nat) : Tokens → Except SyntaxError (List Redirect × Tokens)
  | (.redirect n op, _) :: (.word w, _) :: ts =>
      match readRedirects last ts with
      | .ok (rs, ts) => .ok (⟨n, op, w⟩ :: rs, ts)
      | .error e => .error e
  | (.redirect _ _, _) :: ts => unexpected last none ts
  | ts => .ok ([], ts)

/-- Words and redirections up to the end of a simple command. -/
def readSimple (last : Nat) : Tokens → Except SyntaxError (List Word × List Redirect × Tokens)
  | (.word w, _) :: ts =>
      match readSimple last ts with
      | .ok (ws, rs, ts) => .ok (w :: ws, rs, ts)
      | .error e => .error e
  | (.redirect n op, _) :: (.word w, _) :: ts =>
      match readSimple last ts with
      | .ok (ws, rs, ts) => .ok (ws, ⟨n, op, w⟩ :: rs, ts)
      | .error e => .error e
  | (.redirect _ _, _) :: ts => unexpected last none ts
  | ts => .ok ([], [], ts)

/-- The words of a loop over words. -/
def readWords : Tokens → List Word × Tokens
  | (.word w, _) :: ts =>
      let (ws, ts) := readWords ts
      (w :: ws, ts)
  | ts => ([], ts)

/-- The patterns of an arm, up to the parenthesis. -/
def readPatterns (last : Nat) : Tokens → Except SyntaxError (List Word × Tokens)
  | (.word w, _) :: (.operator ")", _) :: ts => .ok ([w], ts)
  | (.word w, _) :: (.operator "|", _) :: ts =>
      match readPatterns last ts with
      | .ok (ws, ts) => .ok (w :: ws, ts)
      | .error e => .error e
  | (.word _, _) :: ts => unexpected last (some (inMarks ")")) ts
  | ts => unexpected last (some (inMarks ")")) ts

mutual

/-- Commands up to the end of a list, in which there may have to be one. -/
def readList : Nat → Nat → Bool → Tokens → Except SyntaxError (Command × Tokens)
  | 0, last, _, ts => unexpected last none ts
  | fuel + 1, last, needed, ts =>
      let ts := dropNewlines ts
      if ts = [] ∨ (!needed ∧ atEnd ts) then .ok (.skip, ts)
      else do
        let (first, ts) ← readAndOr fuel last ts
        match ts with
        | (.newline, _) :: ts =>
            let (rest, ts) ← readList fuel last false ts
            return (.seq first rest, ts)
        | (.operator op, l) :: ts =>
            if op = ";" ∨ op = "&" then
              let (rest, ts) ← readList fuel last false ts
              return (.seq first rest, ts)
            else return (first, (.operator op, l) :: ts)
        | ts => return (first, ts)

/-- Pipelines joined by `&&` and by `||`. -/
def readAndOr : Nat → Nat → Tokens → Except SyntaxError (Command × Tokens)
  | 0, last, ts => unexpected last none ts
  | fuel + 1, last, ts => do
      let (first, ts) ← readPipeline fuel last ts
      readAndOrTail fuel last first ts

def readAndOrTail : Nat → Nat → Command → Tokens → Except SyntaxError (Command × Tokens)
  | 0, last, _, ts => unexpected last none ts
  | fuel + 1, last, first, (.operator op, l) :: ts =>
      if op = "&&" then do
        let (second, ts) ← readPipeline fuel last (dropNewlines ts)
        readAndOrTail fuel last (.both first second) ts
      else if op = "||" then do
        let (second, ts) ← readPipeline fuel last (dropNewlines ts)
        readAndOrTail fuel last (.either first second) ts
      else .ok (first, (.operator op, l) :: ts)
  | _, _, first, ts => .ok (first, ts)

/-- Commands joined by `|`, the whole of which may be negated. -/
def readPipeline : Nat → Nat → Tokens → Except SyntaxError (Command × Tokens)
  | 0, last, ts => unexpected last none ts
  | fuel + 1, last, ts =>
      if keyword? ts = some "!" then do
        let (first, ts) ← readCommand fuel last ts.tail
        let (c, ts) ← readPipes fuel last first ts
        return (.negated c, ts)
      else do
        let (first, ts) ← readCommand fuel last ts
        readPipes fuel last first ts

def readPipes : Nat → Nat → Command → Tokens → Except SyntaxError (Command × Tokens)
  | 0, last, _, ts => unexpected last none ts
  | fuel + 1, last, first, (.operator "|", _) :: ts => do
      let (second, ts) ← readCommand fuel last (dropNewlines ts)
      let (rest, ts) ← readPipes fuel last second ts
      return (.pipe first rest, ts)
  | _, _, first, ts => .ok (first, ts)

/-- One command and its redirections. -/
def readCommand : Nat → Nat → Tokens → Except SyntaxError (Command × Tokens)
  | 0, last, ts => unexpected last none ts
  | fuel + 1, last, ts =>
      match ts with
      | (.operator "(", l) :: ts => do
          let (c, ts) ← readList fuel last true ts
          let ts ← expectOperator last ")" ts
          readRest last l (.subshell c) ts
      | (.word w, l) :: rest =>
          match bare? w with
          | some "if" => do
              let (c, ts) ← readIf fuel last rest
              readRest last l c ts
          | some "while" => do
              let (c, ts) ← readLoop fuel last true rest
              readRest last l c ts
          | some "until" => do
              let (c, ts) ← readLoop fuel last false rest
              readRest last l c ts
          | some "for" => do
              let (c, ts) ← readFor fuel last rest
              readRest last l c ts
          | some "case" =>
              match rest with
              | (.word subject, _) :: ts => do
                  let ts ← expectWord last "in" (dropNewlines ts)
                  let (arms, ts) ← readArms fuel last (dropNewlines ts)
                  readRest last l (.select subject arms) ts
              | ts => unexpected last (some "word") ts
          | some "\x7b" => do
              let (c, ts) ← readList fuel last true rest
              let ts ← expectWord last "\x7d" ts
              readRest last l c ts
          | some s =>
              if reserved.contains s then unexpected last none ts
              else
                match rest with
                | (.operator "(", _) :: ts =>
                    if s.toList.contains '=' then readPlain last l ((.word w, l) :: rest)
                    else do
                      let ts ← expectOperator last ")" ts
                      if s.toList.all isNameCharacter ∧ s.toList.head?.any isNameStart then
                        let (body, ts) ← readCommand fuel last (dropNewlines ts)
                        return (.define s body, ts)
                      else .error ⟨l, "Syntax error: Bad function name"⟩
                | _ => readPlain last l ((.word w, l) :: rest)
          | none => readPlain last l ((.word w, l) :: rest)
      | (.redirect _ _, l) :: _ => readPlain last l ts
      | ts => unexpected last none ts
where
  readPlain (last line : Nat) (ts : Tokens) : Except SyntaxError (Command × Tokens) := do
    let (words, redirects, ts) ← readSimple last ts
    return (.simple line words redirects, ts)
  readRest (last line : Nat) (c : Command) (ts : Tokens) :
      Except SyntaxError (Command × Tokens) := do
    match ← readRedirects last ts with
    | ([], ts) => return (c, ts)
    | (rs, ts) => return (.redirected line c rs, ts)

/-- A condition, what to do if it holds, and what else. -/
def readIf : Nat → Nat → Tokens → Except SyntaxError (Command × Tokens)
  | 0, last, ts => unexpected last none ts
  | fuel + 1, last, ts => do
      let (condition, ts) ← readList fuel last true ts
      let ts ← expectWord last "then" ts
      let (yes, ts) ← readList fuel last true ts
      match keyword? ts with
      | some "else" =>
          let (no, ts) ← readList fuel last true ts.tail
          let ts ← expectWord last "fi" ts
          return (.branch condition yes no, ts)
      | some "elif" =>
          let (no, ts) ← readIf fuel last ts.tail
          return (.branch condition yes no, ts)
      | _ =>
          let ts ← expectWord last "fi" ts
          return (.branch condition yes .skip, ts)

def readBody : Nat → Nat → Tokens → Except SyntaxError (Command × Tokens)
  | 0, last, ts => unexpected last none ts
  | fuel + 1, last, ts => do
      let ts ← expectWord last "do" ts
      let (body, ts) ← readList fuel last true ts
      let ts ← expectWord last "done" ts
      return (body, ts)

def readLoop : Nat → Nat → Bool → Tokens → Except SyntaxError (Command × Tokens)
  | 0, last, _, ts => unexpected last none ts
  | fuel + 1, last, expected, ts => do
      let (condition, ts) ← readList fuel last true ts
      let (body, ts) ← readBody fuel last ts
      return (.loop expected condition body, ts)

def readFor : Nat → Nat → Tokens → Except SyntaxError (Command × Tokens)
  | 0, last, ts => unexpected last none ts
  | fuel + 1, last, ts => do
      let name ← match keyword? ts with
        | some name =>
            if name.toList.all isNameCharacter ∧ name.toList.head?.any isNameStart then .ok name
            else .error ⟨lineOf last ts, "Syntax error: Bad for loop variable"⟩
        | none => .error ⟨lineOf last ts, "Syntax error: Bad for loop variable"⟩
      let ts := dropNewlines ts.tail
      if keyword? ts = some "in" then
        let (words, ts) := readWords ts.tail
        let ts ← match ts with
          | (.newline, _) :: ts => .ok ts
          | (.operator ";", _) :: ts => .ok ts
          | ts => unexpected last none ts
        let (body, ts) ← readBody fuel last (dropNewlines ts)
        return (.each name (some words) body, ts)
      else
        let ts := match ts with
          | (.operator ";", _) :: ts => ts
          | ts => ts
        let (body, ts) ← readBody fuel last (dropNewlines ts)
        return (.each name none body, ts)

/-- The arms of a selection, up to its end. -/
def readArms : Nat → Nat → Tokens → Except SyntaxError (List (List Word × Command) × Tokens)
  | 0, last, ts => unexpected last none ts
  | fuel + 1, last, ts =>
      if keyword? ts = some "esac" then .ok ([], ts.tail)
      else do
        let ts := match ts with
          | (.operator "(", _) :: ts => ts
          | ts => ts
        let (patterns, ts) ← readPatterns last ts
        let (body, ts) ← readList fuel last false ts
        match ts with
        | (.operator ";;", _) :: ts =>
            let (arms, ts) ← readArms fuel last (dropNewlines ts)
            return ((patterns, body) :: arms, ts)
        | ts =>
            if keyword? ts = some "esac" then return ([(patterns, body)], ts.tail)
            else unexpected last (some (inMarks ";;")) ts

end

/-- The commands on a line, as far as it has to be read for them to be complete. -/
def readLine : Nat → Nat → Tokens → Except SyntaxError (Command × Tokens)
  | 0, last, ts => unexpected last none ts
  | _, _, [] => .ok (.skip, [])
  | _, _, (.newline, _) :: ts => .ok (.skip, ts)
  | fuel + 1, last, ts => do
      let (first, ts) ← readAndOr (8 * ts.length + 8) last ts
      match ts with
      | [] => return (first, [])
      | (.newline, _) :: ts => return (first, ts)
      | (.operator op, l) :: ts =>
          if op = ";" ∨ op = "&" then
            let (rest, ts) ← readLine fuel last ts
            return (.seq first rest, ts)
          else unexpected last none ((.operator op, l) :: ts)
      | ts => unexpected last none ts

/-- Read the first line of commands. -/
def parseLine (last : Nat) (ts : Tokens) : Except SyntaxError (Command × Tokens) :=
  readLine (ts.length + 1) last ts

/-- The first error of a script, if it has one. -/
def firstError? (last : Nat) : Nat → Tokens → Option SyntaxError
  | 0, _ => none
  | _, [] => none
  | fuel + 1, ts =>
      match parseLine last ts with
      | .error e => some e
      | .ok (_, rest) => firstError? last fuel rest

end NotebookKernel.ShellScript
