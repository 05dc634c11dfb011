/-!
# Words of a shell script

A script is cut into words, operators and line ends. A word is a list of parts, since
quotes may begin and end anywhere in it: text, parameters, the output of scripts and
sums. What is quoted is neither split nor read as a pattern.

Cutting never fails: where a quotation or a substitution does not end, the tokens end
with one that says so, and what comes before it can still be run.
-/

namespace NotebookKernel.ShellScript

/-- What a parameter is used for besides its value. Where it says so, an empty value counts
as none. -/
inductive Treatment where
  /-- The word stands in for a missing value. -/
  | fallback (empty : Bool)
  /-- The word stands in for a value that is there. -/
  | replacement (empty : Bool)
  /-- A missing value is set to the word. -/
  | default (empty : Bool)
  /-- A part of the value that the word fits is cut off. -/
  | cut (atEnd longest : Bool)
  deriving DecidableEq, Repr

inductive Part where
  | text (s : String)
  | parameter (name : String)
  | treated (name : String) (how : Treatment) (word : List Char)
  | size (name : String)
  | output (script : List Char)
  | sum (expression : List Char)
  deriving DecidableEq, Repr

structure Fragment where
  quoted : Bool
  part : Part
  deriving DecidableEq, Repr

abbrev Word := List Fragment

inductive Token where
  | word (w : Word)
  | operator (text : String)
  /-- A redirection of a stream, such as `2>`. -/
  | redirect (stream : Nat) (text : String)
  | newline
  /-- The script cannot be cut any further. -/
  | fault (text : String)
  deriving DecidableEq, Repr

def isNameStart (c : Char) : Bool := c.isAlpha || c == '_'

def isNameCharacter (c : Char) : Bool := c.isAlphanum || c == '_'

/-- Parameters whose names are single signs. -/
def isSpecial (c : Char) : Bool := c.isDigit || "@*#?$!-".toList.contains c

def isMeta (c : Char) : Bool := " \t\n;&|<>()".toList.contains c

/-- The sign that quotes a script to be run. -/
def backquote : Char := Char.ofNat 96

def unterminated : String := "Syntax error: Unterminated quoted string"

def missingParen : String := "Syntax error: end of file unexpected (expecting \")\")"

/-- Text up to the sign that closes, with quotes and inner pairs of the two signs skipped. -/
def upToClosing (opening closing : Char) (depth : Nat) (quote : Option Char) (seen : List Char) :
    List Char → Option (List Char × List Char)
  | [] => none
  | '\\' :: c :: cs =>
      if quote = some '\'' then upToClosing opening closing depth quote ('\\' :: seen) (c :: cs)
      else upToClosing opening closing depth quote (c :: '\\' :: seen) cs
  | c :: cs =>
      match quote with
      | some q =>
          upToClosing opening closing depth (if c = q then none else some q) (c :: seen) cs
      | none =>
          if c = '\'' ∨ c = '"' then upToClosing opening closing depth (some c) (c :: seen) cs
          else if c = opening then upToClosing opening closing (depth + 1) none (c :: seen) cs
          else if c = closing then
            match depth with
            | 0 => some (seen.reverse, cs)
            | depth + 1 => upToClosing opening closing depth none (c :: seen) cs
          else upToClosing opening closing depth none (c :: seen) cs

/-- Text up to a character. -/
def upTo (stop : Char) (seen : List Char) : List Char → Option (List Char × List Char)
  | [] => none
  | c :: cs => if c = stop then some (seen.reverse, cs) else upTo stop (c :: seen) cs

/-- The treatment that follows the name of a parameter. -/
def treatment? : List Char → Option (Treatment × List Char)
  | ':' :: '-' :: w => some (.fallback true, w)
  | '-' :: w => some (.fallback false, w)
  | ':' :: '+' :: w => some (.replacement true, w)
  | '+' :: w => some (.replacement false, w)
  | ':' :: '=' :: w => some (.default true, w)
  | '=' :: w => some (.default false, w)
  | '%' :: '%' :: w => some (.cut true true, w)
  | '%' :: w => some (.cut true false, w)
  | '#' :: '#' :: w => some (.cut false true, w)
  | '#' :: w => some (.cut false false, w)
  | _ => none

/-- What stands between the braces of a parameter. -/
def braced (body : List Char) : Except String Part :=
  match body with
  | '#' :: c :: name => .ok (.size (String.ofList (c :: name)))
  | _ =>
      let name := match body with
        | c :: cs =>
            if c.isDigit then (c :: cs).takeWhile Char.isDigit
            else if isSpecial c then [c] else (c :: cs).takeWhile isNameCharacter
        | [] => []
      if name = [] then .error "Bad substitution"
      else
        match body.drop name.length with
        | [] => .ok (.parameter (String.ofList name))
        | rest =>
            match treatment? rest with
            | some (how, word) => .ok (.treated (String.ofList name) how word)
            | none => .error "Bad substitution"

/-- What follows a dollar sign. -/
def readDollar : List Char → Except String (Part × List Char)
  | '(' :: '(' :: cs =>
      match upToClosing '(' ')' 0 none [] cs with
      | some (e, ')' :: rest) => .ok (.sum e, rest)
      | _ => .error "Syntax error: Missing '))'"
  | '(' :: cs =>
      match upToClosing '(' ')' 0 none [] cs with
      | some (s, rest) => .ok (.output s, rest)
      | none => .error missingParen
  | '\x7b' :: cs =>
      match upToClosing '\x7b' '\x7d' 0 none [] cs with
      | some (b, rest) => (braced b).map fun p => (p, rest)
      | none => .error "Syntax error: Missing '\x7d'"
  | c :: cs =>
      if isSpecial c then .ok (.parameter (String.singleton c), cs)
      else if isNameStart c then
        let name := (c :: cs).takeWhile isNameCharacter
        .ok (.parameter (String.ofList name), (c :: cs).drop name.length)
      else .ok (.text "$", c :: cs)
  | [] => .ok (.text "$", [])

/-- A script between backquotes. -/
def readBackquoted (cs : List Char) : Except String (Part × List Char) :=
  match upTo backquote [] cs with
  | some (s, rest) => .ok (.output s, rest)
  | none => .error "Syntax error: EOF in backquote substitution"

/-- The parts of a quoted text, the last one first. Within double quotation marks the text ends
with the next such mark; otherwise such marks have no meaning, and it ends where it ends. -/
def readQuoted (marks : Bool) : Nat → List Fragment → List Char →
    Except String (List Fragment × List Char)
  | 0, _, _ => .error unterminated
  | _, seen, [] => if marks then .error unterminated else .ok (seen, [])
  | fuel + 1, seen, '\\' :: c :: cs =>
      if c = '\n' then readQuoted marks fuel seen cs
      else if c = '$' ∨ c = '\\' ∨ c = backquote ∨ (marks ∧ c = '"') then
        readQuoted marks fuel (⟨true, .text (String.singleton c)⟩ :: seen) cs
      else readQuoted marks fuel (⟨true, .text (String.ofList ['\\', c])⟩ :: seen) cs
  | fuel + 1, seen, '$' :: cs =>
      match readDollar cs with
      | .ok (p, rest) => readQuoted marks fuel (⟨true, p⟩ :: seen) rest
      | .error e => .error e
  | fuel + 1, seen, c :: cs =>
      if marks ∧ c = '"' then .ok (seen, cs)
      else if c = backquote then
        match readBackquoted cs with
        | .ok (p, rest) => readQuoted marks fuel (⟨true, p⟩ :: seen) rest
        | .error e => .error e
      else readQuoted marks fuel (⟨true, .text (String.singleton c)⟩ :: seen) cs

/-- The parts of a word, the last one first. Where blanks and operators do not end it, it goes on
to the end of the text. -/
def readWord (whole : Bool) : Nat → List Fragment → List Char →
    Except String (List Fragment × List Char)
  | 0, _, _ => .error unterminated
  | _, seen, [] => .ok (seen, [])
  | fuel + 1, seen, '\'' :: cs =>
      match upTo '\'' [] cs with
      | some (s, rest) => readWord whole fuel (⟨true, .text (String.ofList s)⟩ :: seen) rest
      | none => .error unterminated
  | fuel + 1, seen, '"' :: cs =>
      match readQuoted true (cs.length + 1) (⟨true, .text ""⟩ :: seen) cs with
      | .ok (seen, rest) => readWord whole fuel seen rest
      | .error e => .error e
  | fuel + 1, seen, '\\' :: cs =>
      match cs with
      | [] => .ok (⟨true, .text "\\"⟩ :: seen, [])
      | '\n' :: cs => readWord whole fuel seen cs
      | c :: cs => readWord whole fuel (⟨true, .text (String.singleton c)⟩ :: seen) cs
  | fuel + 1, seen, '$' :: cs =>
      match readDollar cs with
      | .ok (p, rest) => readWord whole fuel (⟨false, p⟩ :: seen) rest
      | .error e => .error e
  | fuel + 1, seen, c :: cs =>
      if isMeta c ∧ !whole then .ok (seen, c :: cs)
      else if c = backquote then
        match readBackquoted cs with
        | .ok (p, rest) => readWord whole fuel (⟨false, p⟩ :: seen) rest
        | .error e => .error e
      else readWord whole fuel (⟨false, .text (String.singleton c)⟩ :: seen) cs

/-- Texts next to each other are one. -/
def joinTexts : List Fragment → Word
  | [] => []
  | f :: rest =>
      match f, joinTexts rest with
      | ⟨q, .text s⟩, ⟨r, .text t⟩ :: more =>
          if q = r then ⟨q, .text (s ++ t)⟩ :: more else f :: ⟨r, .text t⟩ :: more
      | f, rest => f :: rest

/-- A text as one word, or as a text between quotation marks. -/
def Word.ofText (quoted : Bool) (text : List Char) : Word :=
  let read :=
    if quoted then readQuoted false (2 * text.length + 1) [] text
    else readWord true (2 * text.length + 1) [] text
  match read with
  | .ok (w, _) => joinTexts w.reverse
  | .error _ => [⟨true, .text (String.ofList text)⟩]

/-- The word as it stands, if it is nothing but text without quotes. -/
def bare? : Word → Option String
  | [⟨false, .text s⟩] => some s
  | _ => none

/-- The word without its quotes. Parameters in it stand for nothing. -/
def Word.plain (w : Word) : String :=
  String.join (w.map fun f => match f.part with
    | .text s => s
    | _ => "")

/-- The operator at the front. -/
def readOperator : List Char → Option (Token × List Char)
  | '&' :: '&' :: cs => some (.operator "&&", cs)
  | '|' :: '|' :: cs => some (.operator "||", cs)
  | ';' :: ';' :: cs => some (.operator ";;", cs)
  | '>' :: '>' :: cs => some (.redirect 1 ">>", cs)
  | '>' :: '&' :: cs => some (.redirect 1 ">&", cs)
  | '>' :: cs => some (.redirect 1 ">", cs)
  | '<' :: '<' :: cs => some (.redirect 0 "<<", cs)
  | '<' :: cs => some (.redirect 0 "<", cs)
  | '&' :: cs => some (.operator "&", cs)
  | '|' :: cs => some (.operator "|", cs)
  | ';' :: cs => some (.operator ";", cs)
  | '(' :: cs => some (.operator "(", cs)
  | ')' :: cs => some (.operator ")", cs)
  | _ => none

/-- The lines up to one that consists of a text, how many they are, and what follows. -/
def readDocument (tabs : Bool) (stop : List Char) : Nat → List Char →
    List Char × Nat × List Char
  | 0, cs => (cs, 0, [])
  | _, [] => ([], 0, [])
  | fuel + 1, cs =>
      let line := cs.takeWhile (· ≠ '\n')
      let rest := cs.drop line.length
      let line := if tabs then line.dropWhile (· == '\t') else line
      if line = stop then ([], 1, rest.drop 1)
      else
        let (more, lines, after) := readDocument tabs stop fuel (rest.drop 1)
        (line ++ rest.take 1 ++ more, lines + 1, after)

def lineEnds (cs : List Char) : Nat := (cs.filter (· == '\n')).length

/-- Tokens with the lines they are on. Lines that were read ahead are counted at the end of the
line; the last token is on the line on which the script ends. -/
def readTokens : Nat → Nat → Nat → List Char → List (Token × Nat)
  | 0, _, _, _ => []
  | _, _, _, [] => []
  | fuel + 1, line, ahead, '\n' :: cs =>
      let line := line + 1 + ahead
      (.newline, line) :: readTokens fuel line 0 cs
  | fuel + 1, line, ahead, '\\' :: '\n' :: cs => readTokens fuel (line + 1) ahead cs
  | fuel + 1, line, ahead, c :: cs =>
      if c = ' ' ∨ c = '\t' then readTokens fuel line ahead cs
      else if c = '#' then readTokens fuel line ahead (cs.dropWhile (· ≠ '\n'))
      else
        let stream := match c, cs with
          | d, '>' :: _ => if d.isDigit then some (d.toNat - 48) else none
          | d, '<' :: _ => if d.isDigit then some (d.toNat - 48) else none
          | _, _ => none
        match stream, readOperator (if stream.isSome then cs else c :: cs) with
        | n, some (.redirect _ "<<", rest) =>
            let (tabs, rest) := match rest with
              | '-' :: rest => (true, rest)
              | rest => (false, rest)
            match readWord false (2 * rest.length + 3) [] (rest.dropWhile (· == ' ')) with
            | .error e => [(.fault e, line + ahead + lineEnds cs)]
            | .ok (w, rest) =>
                let stop := Word.plain (joinTexts w.reverse)
                let behind := rest.takeWhile (· ≠ '\n')
                let (text, lines, after) :=
                  readDocument tabs stop.toList rest.length (rest.drop (behind.length + 1))
                let document := if w.any (·.quoted) then [⟨true, .text (String.ofList text)⟩]
                  else Word.ofText true text
                (.redirect (n.getD 0) "<<", line) :: (.word document, line) ::
                  readTokens fuel line (ahead + lines)
                    (if behind.length < rest.length then behind ++ '\n' :: after else behind)
        | some n, some (.redirect _ op, rest) =>
            (.redirect n op, line) :: readTokens fuel line ahead rest
        | _, some (t, rest) => (t, line) :: readTokens fuel line ahead rest
        | _, none =>
            match readWord false (2 * cs.length + 3) [] (c :: cs) with
            | .error e => [(.fault e, line + ahead + lineEnds cs)]
            | .ok (w, rest) =>
                let lines := lineEnds ((c :: cs).take (cs.length + 1 - rest.length))
                (.word (joinTexts w.reverse), line) :: readTokens fuel (line + lines) ahead rest

/-- The tokens of a script, and the line on which it ends. -/
def tokens (script : List Char) : List (Token × Nat) × Nat :=
  (readTokens (script.length + 1) 1 0 script, 1 + lineEnds script)

end NotebookKernel.ShellScript
