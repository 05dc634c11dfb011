import NotebookKernel.Text.Utf8

/-!
# Formatted output

Text with escapes, as `echo` writes it, and formats with directives, as `printf` fills
them in. Escapes may stand for any byte, so the output is bytes.
-/

namespace NotebookKernel.Format

def octal? (c : Char) : Option Nat :=
  if '0' ≤ c ∧ c ≤ '7' then some (c.toNat - 48) else none

/-- The number that up to some octal digits write. -/
def readOctal : Nat → Nat → List Char → Nat × List Char
  | 0, n, cs => (n, cs)
  | _, n, [] => (n, [])
  | k + 1, n, c :: cs =>
      match octal? c with
      | some d => readOctal k (8 * n + d) cs
      | none => (n, c :: cs)

def simpleEscape? : Char → Option UInt8
  | 'a' => some 7
  | 'b' => some 8
  | 'f' => some 12
  | 'n' => some 10
  | 'r' => some 13
  | 't' => some 9
  | 'v' => some 11
  | '\\' => some 92
  | _ => none

/-- The bytes for a character that stands for itself. -/
def plain (c : Char) : Bytes := Utf8.encode [c]

/-- What follows a backslash. An argument writes octal numbers after a zero and may end
the output; a format writes them at once. -/
inductive Escaped where
  | bytes (bs : Bytes) (rest : List Char)
  | stop

def readEscape (argument : Bool) : List Char → Escaped
  | [] => .bytes [92] []
  | c :: cs =>
      if argument ∧ c = 'c' then .stop
      else
        match simpleEscape? c with
        | some b => .bytes [b] cs
        | none =>
            if argument then
              if c = '0' then
                let (n, rest) := readOctal 3 0 cs
                .bytes [n.toUInt8] rest
              else .bytes (92 :: plain c) cs
            else
              match octal? c with
              | some _ =>
                  let (n, rest) := readOctal 3 0 (c :: cs)
                  .bytes [n.toUInt8] rest
              | none => .bytes (92 :: plain c) cs

/-- An argument with its escapes, and whether the output ends in it. -/
def escaped : Nat → List Char → Bytes × Bool
  | 0, _ => ([], false)
  | _, [] => ([], false)
  | fuel + 1, '\\' :: cs =>
      match readEscape true cs with
      | .stop => ([], true)
      | .bytes bs rest =>
          let (out, stopped) := escaped fuel rest
          (bs ++ out, stopped)
  | fuel + 1, c :: cs =>
      let (out, stopped) := escaped fuel cs
      (plain c ++ out, stopped)

def withEscapes (text : String) : Bytes × Bool := escaped text.length text.toList

/-- A directive: how wide, to which side, with zeros, how many characters, and which kind. -/
structure Directive where
  left : Bool
  zeros : Bool
  sign : Bool
  width : Nat
  digits : Option Nat
  kind : Char

def readNumber : List Char → Nat × List Char
  | [] => (0, [])
  | cs =>
      let ds := cs.takeWhile Char.isDigit
      (ds.foldl (fun n d => 10 * n + (d.toNat - 48)) 0, cs.drop ds.length)

def readDirective (cs : List Char) : Option (Directive × List Char) :=
  let flags := cs.takeWhile fun c => c == '-' || c == '0' || c == '+' || c == ' ' || c == '#'
  let (width, cs) := readNumber (cs.drop flags.length)
  let (digits, cs) := match cs with
    | '.' :: cs =>
        let (n, cs) := readNumber cs
        (some n, cs)
    | cs => (none, cs)
  match cs with
  | [] => none
  | kind :: rest =>
      some (⟨flags.contains '-', flags.contains '0', flags.contains '+', width, digits, kind⟩, rest)

/-- Fill up to the width. -/
def Directive.pad (d : Directive) (zeros : Bool) (bs : Bytes) : Bytes :=
  let fill := List.replicate (d.width - bs.length) (if zeros ∧ !d.left then (48 : UInt8) else 32)
  if d.left then bs ++ fill else fill ++ bs

/-- The integer at the front of a text: decimal, octal after a zero, or hexadecimal after `0x`. -/
def integer (text : String) : Int :=
  let (negative, cs) := match text.toList with
    | '-' :: cs => (true, cs)
    | '+' :: cs => (false, cs)
    | cs => (false, cs)
  let n : Nat := match cs with
    | '0' :: 'x' :: hs =>
        (hs.takeWhile fun c => c.isDigit || ('a' ≤ c && c ≤ 'f') || ('A' ≤ c && c ≤ 'F')).foldl
          (fun n c => 16 * n + (if c.isDigit then c.toNat - 48 else c.toLower.toNat - 87)) 0
    | '0' :: os => (readOctal os.length 0 os).1
    | '\'' :: c :: _ => c.toNat
    | '"' :: c :: _ => c.toNat
    | cs => (readNumber cs).1
  if negative then -(n : Int) else n

/-- What is left of a text after the integer at its front. -/
def leftover (text : String) : List Char :=
  let cs := match text.toList with
    | '-' :: cs => cs
    | '+' :: cs => cs
    | cs => cs
  match cs with
  | '0' :: 'x' :: hs => hs.dropWhile fun c => c.isDigit || (c.toLower.isLower && c.toLower ≤ 'f')
  | '0' :: os => (readOctal os.length 0 os).2
  | '\'' :: _ => []
  | '"' :: _ => []
  | cs => cs.dropWhile Char.isDigit

/-- What is wrong with a text as an integer, if anything is. -/
def integerFault? (text : String) : Option String :=
  let rest := leftover text
  if rest = [] then none
  else if rest = text.toList then some (text ++ ": expected numeric value")
  else some (text ++ ": not completely converted")

def Directive.number (d : Directive) (base : Nat) (upper : Bool) (i : Int) : Bytes :=
  let ds := Nat.toDigits base i.natAbs
  let ds := List.replicate ((d.digits.getD 0) - ds.length) '0' ++ ds
  let ds := if upper then ds.map Char.toUpper else ds
  let sign := if i < 0 then ['-'] else if d.sign then ['+'] else []
  let body := if d.zeros ∧ !d.left ∧ d.digits = none
    then List.replicate (d.width - sign.length - ds.length) '0' ++ ds else ds
  d.pad false (Utf8.encode (sign ++ body))

/-- What printing has come to. -/
structure Printed where
  out : Bytes
  /-- The arguments that are left. -/
  rest : List String
  /-- Nothing more is to be printed. -/
  stopped : Bool
  /-- Has a directive asked for an argument? -/
  asked : Bool
  faults : List String
  /-- The format itself is wrong. -/
  broken : Bool

namespace Printed

def start (args : List String) : Printed := ⟨[], args, false, false, [], false⟩

def add (p : Printed) (bs : Bytes) : Printed := { p with out := p.out ++ bs }

def fail (p : Printed) (fault : String) : Printed :=
  { p with faults := p.faults ++ [fault], stopped := true, broken := true }

end Printed

/-- The output of a directive for an argument, whether printing ends with it, and what is wrong. -/
def Directive.fill (d : Directive) (arg : String) : Option (Bytes × Bool × Option String) :=
  let cut (bs : Bytes) := match d.digits with
    | some n => bs.take n
    | none => bs
  let unsigned (i : Int) : Int := if i < 0 then i + 0x10000000000000000 else i
  let numeric (base : Nat) (upper : Bool) (i : Int) : Option (Bytes × Bool × Option String) :=
    some (d.number base upper i, false, integerFault? arg)
  match d.kind with
  | 's' => some (d.pad false (cut (utf8 arg)), false, none)
  | 'b' =>
      let (bs, stopped) := withEscapes arg
      some (d.pad false (cut bs), stopped, none)
  | 'c' => some (d.pad false ((utf8 arg).take 1), false, none)
  | 'd' => numeric 10 false (integer arg)
  | 'i' => numeric 10 false (integer arg)
  | 'o' => numeric 8 false (unsigned (integer arg))
  | 'u' => numeric 10 false (unsigned (integer arg))
  | 'x' => numeric 16 false (unsigned (integer arg))
  | 'X' => numeric 16 true (unsigned (integer arg))
  | _ => none

/-- One pass over a format. -/
def pass : Nat → List Char → Printed → Printed
  | 0, _, p => p
  | _, [], p => p
  | fuel + 1, '\\' :: cs, p =>
      match readEscape false cs with
      | .stop => { p with stopped := true }
      | .bytes bs rest => pass fuel rest (p.add bs)
  | fuel + 1, '%' :: '%' :: cs, p => pass fuel cs (p.add [37])
  | fuel + 1, '%' :: cs, p =>
      match readDirective cs with
      | none => p.fail "missing format character"
      | some (d, rest) =>
          match d.fill (p.rest.headD "") with
          | none =>
              let text := String.ofList ('%' :: cs.take (cs.length - rest.length))
              p.fail (text ++ ": invalid directive")
          | some (bs, stopped, fault) =>
              let p := { p with
                out := p.out ++ bs
                rest := p.rest.tail
                asked := true
                faults := p.faults ++ fault.toList }
              if stopped then { p with stopped := true } else pass fuel rest p
  | fuel + 1, c :: cs, p => pass fuel cs (p.add (plain c))

/-- Use the format again as long as arguments are left. -/
def passes : Nat → List Char → Printed → Printed
  | 0, _, p => p
  | fuel + 1, format, p =>
      let p := pass format.length format { p with asked := false }
      if p.stopped ∨ !p.asked ∨ p.rest = [] then p else passes fuel format p

def printed (format : String) (args : List String) : Printed :=
  passes (args.length + 1) format.toList (.start args)

end NotebookKernel.Format
