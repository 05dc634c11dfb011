import NotebookKernel.Pattern.Regex

/-!
# Reading regular expressions

The written form: literals, `.`, classes, anchors, groups (capturing, named, or with
flags), alternatives and repetitions. What cannot be read is no expression: there
are no back references and no look-around. The properties of characters that have a
name, as in `\p{L}`, are left out, since they take tables of all characters: a pattern
that asks for one is no expression either.
-/

namespace NotebookKernel.Regex

/-- Case, line and dot modes, and the preference of repetitions. -/
structure Flags where
  anyCase : Bool := false
  multiLine : Bool := false
  dotAll : Bool := false
  swapGreed : Bool := false
  deriving DecidableEq

/-- What is left to read, and what has been seen. -/
structure Input where
  rest : List Char
  flags : Flags
  groups : Nat
  names : List String

namespace Input

def start (text : List Char) : Input := ⟨text, {}, 0, []⟩

def withRest (p : Input) (rest : List Char) : Input := { p with rest := rest }

end Input

/-- A character that stands for itself. -/
def literal (p : Input) (c : Char) : Regex :=
  .one ⟨[.range c.toNat c.toNat], false, p.flags.anyCase⟩

/-- What an escape denotes. -/
inductive Escape where
  | char (c : Char)
  | item (i : ClassItem)
  | anchor (a : Anchor)

def isMeta (c : Char) : Bool :=
  ['\\', '.', '+', '*', '?', '(', ')', '|', '[', ']', '\x7b', '\x7d', '^', '$', '#', '&', '-',
    '~'].contains c

/-- Other characters whose escape is the character itself. -/
def isEscapable (c : Char) : Bool :=
  isMeta c || (c.toNat < 128 && !c.isAlphanum && c != '<' && c != '>')

/-- The value of hexadecimal digits. -/
def hexNumber : List Char → Option Nat
  | [] => none
  | ds => ds.foldl (fun n d =>
      match n with
      | none => none
      | some n =>
          let v := d.toNat
          if 48 ≤ v ∧ v ≤ 57 then some (16 * n + (v - 48))
          else if 97 ≤ v ∧ v ≤ 102 then some (16 * n + (v - 87))
          else if 65 ≤ v ∧ v ≤ 70 then some (16 * n + (v - 55))
          else none) (some 0)

def isScalar (n : Nat) : Bool := n < 0xD800 || (0xE000 ≤ n && n < 0x110000)

/-- A character by number: in braces, or with a fixed count of digits. -/
def readCodePoint (digits : Nat) : List Char → Option (Escape × List Char)
  | '\x7b' :: rest =>
      let ds := rest.takeWhile (· != '\x7d')
      match hexNumber ds, rest.drop ds.length with
      | some n, '\x7d' :: rest => if isScalar n then some (.char (Char.ofNat n), rest) else none
      | _, _ => none
  | rest =>
      if rest.length < digits then none
      else
        match hexNumber (rest.take digits) with
        | some n => if isScalar n then some (.char (Char.ofNat n), rest.drop digits) else none
        | none => none

/-- An escape, after its backslash. -/
def readEscape : List Char → Option (Escape × List Char)
  | [] => none
  | c :: rest =>
      match c with
      | 'd' => some (.item (.digit false), rest)
      | 'D' => some (.item (.digit true), rest)
      | 's' => some (.item (.space false), rest)
      | 'S' => some (.item (.space true), rest)
      | 'w' => some (.item (.word false), rest)
      | 'W' => some (.item (.word true), rest)
      | 'b' => some (.anchor .wordBoundary, rest)
      | 'B' => some (.anchor .notWordBoundary, rest)
      | 'A' => some (.anchor .textStart, rest)
      | 'z' => some (.anchor .textEnd, rest)
      | 'a' => some (.char '\x07', rest)
      | 'f' => some (.char '\x0c', rest)
      | 't' => some (.char '\t', rest)
      | 'n' => some (.char '\n', rest)
      | 'r' => some (.char '\r', rest)
      | 'v' => some (.char '\x0b', rest)
      | 'x' => readCodePoint 2 rest
      | 'u' => readCodePoint 4 rest
      | 'U' => readCodePoint 8 rest
      | c => if isEscapable c then some (.char c, rest) else none

/-! ## Classes -/

/-- One member of a class: a character, or a class of its own. -/
def readMember : List Char → Option ((Char ⊕ ClassItem) × List Char)
  | [] => none
  | '\\' :: rest =>
      match readEscape rest with
      | some (.char c, rest) => some (.inl c, rest)
      | some (.item i, rest) => some (.inr i, rest)
      | _ => none
  | '[' :: _ => none
  | c :: rest => some (.inl c, rest)

def asItem : Char ⊕ ClassItem → ClassItem
  | .inl c => .range c.toNat c.toNat
  | .inr i => i

/-- The members of a class up to its closing bracket. -/
def readMembers : Nat → List ClassItem → List Char → Option (List ClassItem × List Char)
  | 0, _, _ => none
  | fuel + 1, acc, text =>
      match text with
      | [] => none
      | ']' :: rest => some (acc.reverse, rest)
      | text =>
          match readMember text with
          | none => none
          | some (m, rest) =>
              match rest with
              | '-' :: ']' :: _ => readMembers fuel (asItem m :: acc) rest
              | '-' :: '-' :: _ => none
              | '-' :: rest =>
                  match m, readMember rest with
                  | .inl low, some (.inl high, rest) =>
                      if low.toNat ≤ high.toNat then
                        readMembers fuel (.range low.toNat high.toNat :: acc) rest
                      else none
                  | _, _ => none
              | rest => readMembers fuel (asItem m :: acc) rest

/-- Hyphens at the beginning of a class stand for themselves. -/
def readHyphens : List ClassItem → List Char → List ClassItem × List Char
  | acc, '-' :: rest => readHyphens (.range 45 45 :: acc) rest
  | acc, rest => (acc, rest)

/-- A class, after its opening bracket. A closing bracket that comes first stands for itself. -/
def readClass (anyCase : Bool) (text : List Char) : Option (CharClass × List Char) :=
  let (negated, text) := match text with
    | '^' :: rest => (true, rest)
    | text => (false, text)
  let (first, text) := readHyphens [] text
  let (first, text) := match first, text with
    | [], ']' :: rest => ([ClassItem.range 93 93], rest)
    | first, text => (first, text)
  (readMembers (text.length + 1) first text).map fun (items, rest) =>
    (⟨items, negated, anyCase⟩, rest)

/-! ## Repetitions -/

/-- A decimal number of at most 32 bits; blanks around it do not count. -/
def readCount (text : List Char) : Option (Nat × List Char) :=
  let text := text.dropWhile isBlank
  let ds := text.takeWhile Char.isDigit
  if ds = [] then none
  else
    let n := ds.foldl (fun n d => 10 * n + (d.toNat - 48)) 0
    if n < UInt32.size then some (n, (text.drop ds.length).dropWhile isBlank) else none

/-- Bounds in braces, after the opening one. -/
def readBounds (text : List Char) : Option (Nat × Option Nat × List Char) :=
  match readCount text with
  | none => none
  | some (least, '\x7d' :: rest) => some (least, some least, rest)
  | some (least, ',' :: '\x7d' :: rest) => some (least, none, rest)
  | some (least, ',' :: rest) =>
      match readCount rest with
      | some (most, '\x7d' :: rest) =>
          if least ≤ most then some (least, some most, rest) else none
      | _ => none
  | some _ => none

/-- How often the item before may occur; nothing if no repetition begins here. -/
def readRepetition : List Char → Option (Option (Nat × Option Nat × List Char))
  | '*' :: rest => some (some (0, none, rest))
  | '+' :: rest => some (some (1, none, rest))
  | '?' :: rest => some (some (0, some 1, rest))
  | '\x7b' :: rest => some (readBounds rest)
  | _ => none

/-- All repetitions that follow an item. -/
def readRepetitions : Nat → Regex → Input → Option (Regex × Input)
  | 0, r, p => some (r, p)
  | fuel + 1, r, p =>
      match readRepetition p.rest with
      | none => some (r, p)
      | some none => none
      | some (some (least, most, rest)) =>
          let (lazy, rest) := match rest with
            | '?' :: rest => (true, rest)
            | rest => (false, rest)
          let greedy := lazy == p.flags.swapGreed
          readRepetitions fuel (.repeated r least most greedy) (p.withRest rest)

/-! ## Groups and sequences -/

/-- Letters that set or, after a hyphen, clear flags. -/
def readFlags (flags : Flags) (seen : List Char) (clearing bare : Bool) :
    List Char → Option (Flags × List Char)
  | [] => none
  | c :: rest =>
      if c = ')' ∨ c = ':' then
        if bare then none else some (flags, c :: rest)
      else if c = '-' then
        if clearing then none else readFlags flags seen true true rest
      else if seen.contains c then none
      else
        let on := !clearing
        match c with
        | 'i' => readFlags { flags with anyCase := on } (c :: seen) clearing false rest
        | 'm' => readFlags { flags with multiLine := on } (c :: seen) clearing false rest
        | 's' => readFlags { flags with dotAll := on } (c :: seen) clearing false rest
        | 'U' => readFlags { flags with swapGreed := on } (c :: seen) clearing false rest
        | 'u' => if clearing then none else readFlags flags (c :: seen) clearing false rest
        | _ => none

def isNameStart (c : Char) : Bool :=
  c == '_' || (Unicode.isWordCharacter c && !Unicode.isDecimalDigit c)

def isNameCharacter (c : Char) : Bool :=
  Unicode.isWordCharacter c || c == '.' || c == '[' || c == ']'

/-- The name of a group up to its closing angle. -/
def readName (text : List Char) : Option (String × List Char) :=
  let name := text.takeWhile (· != '>')
  match name, text.drop name.length with
  | c :: more, '>' :: rest =>
      if isNameStart c && more.all isNameCharacter then some (String.ofList (c :: more), rest)
      else none
  | _, _ => none

/-- How a group begins. -/
inductive Opening where
  | capture (name : Option String) (rest : List Char)
  | inline (flags : Flags) (rest : List Char)
  | scoped (flags : Flags) (rest : List Char)

def readNamedOpening (text : List Char) : Option Opening :=
  (readName text).map fun (name, rest) => .capture (some name) rest

/-- The beginning of a group, after its opening parenthesis. -/
def readOpening (flags : Flags) : List Char → Option Opening
  | '?' :: 'P' :: '<' :: rest => readNamedOpening rest
  | '?' :: '<' :: rest =>
      match rest with
      | '=' :: _ => none
      | '!' :: _ => none
      | rest => readNamedOpening rest
  | '?' :: rest =>
      match rest with
      | ')' :: _ => none
      | rest =>
          match readFlags flags [] false false rest with
          | some (flags, ')' :: rest) => some (.inline flags rest)
          | some (flags, ':' :: rest) => some (.scoped flags rest)
          | _ => none
  | rest => some (.capture none rest)

/-- Items joined in their order. -/
def joined : List Regex → Regex
  | [] => .empty
  | [r] => r
  | r :: rs => .seq r (joined rs)

/-- A character, class, anchor or escape; groups are read elsewhere. -/
def readAtom (p : Input) : Option (Regex × Input) :=
  match p.rest with
  | [] => none
  | '[' :: rest =>
      (readClass p.flags.anyCase rest).map fun (k, rest) => (.one k, p.withRest rest)
  | '.' :: rest =>
      let k := if p.flags.dotAll then ⟨[], true, false⟩ else ⟨[.range 10 10], true, false⟩
      some (.one k, p.withRest rest)
  | '^' :: rest =>
      some (.anchor (if p.flags.multiLine then .lineStart else .textStart), p.withRest rest)
  | '$' :: rest =>
      some (.anchor (if p.flags.multiLine then .lineEnd else .textEnd), p.withRest rest)
  | '\\' :: rest =>
      match readEscape rest with
      | none => none
      | some (.char c, rest) => some (literal p c, p.withRest rest)
      | some (.item i, rest) => some (.one ⟨[i], false, p.flags.anyCase⟩, p.withRest rest)
      | some (.anchor a, rest) => some (.anchor a, p.withRest rest)
  | c :: rest =>
      if c = '*' ∨ c = '+' ∨ c = '?' ∨ c = '\x7b' then none
      else some (literal p c, p.withRest rest)

mutual

/-- Alternatives up to a closing parenthesis or the end. -/
def readAlternatives : Nat → Input → Option (Regex × Input)
  | 0, _ => none
  | fuel + 1, p =>
      match readSequence fuel [] p with
      | none => none
      | some (r, p) =>
          match p.rest with
          | '|' :: rest =>
              match readAlternatives fuel (p.withRest rest) with
              | none => none
              | some (s, p) => some (.alt r s, p)
          | _ => some (r, p)

/-- Items up to a bar, a closing parenthesis or the end. -/
def readSequence : Nat → List Regex → Input → Option (Regex × Input)
  | 0, _, _ => none
  | fuel + 1, acc, p =>
      match p.rest with
      | [] => some (joined acc.reverse, p)
      | '|' :: _ => some (joined acc.reverse, p)
      | ')' :: _ => some (joined acc.reverse, p)
      | '(' :: rest =>
          match readOpening p.flags rest with
          | none => none
          | some (.inline flags rest) =>
              match readRepetition rest with
              | some _ => none
              | none => readSequence fuel acc { p with flags := flags, rest := rest }
          | some (.scoped flags rest) =>
              match readGroup fuel none { p with flags := flags, rest := rest } with
              | none => none
              | some (r, q) =>
                  match readRepetitions q.rest.length r { q with flags := p.flags } with
                  | none => none
                  | some (r, q) => readSequence fuel (r :: acc) q
          | some (.capture name rest) =>
              let names := match name with
                | some n => if p.names.contains n then none else some (n :: p.names)
                | none => some p.names
              match names with
              | none => none
              | some names =>
                  let index := p.groups + 1
                  match readGroup fuel (some index)
                      { p with rest := rest, groups := index, names := names } with
                  | none => none
                  | some (r, q) =>
                      match readRepetitions q.rest.length r { q with flags := p.flags } with
                      | none => none
                      | some (r, q) => readSequence fuel (r :: acc) q
      | _ =>
          match readAtom p with
          | none => none
          | some (r, p) =>
              match readRepetitions p.rest.length r p with
              | none => none
              | some (r, p) => readSequence fuel (r :: acc) p

/-- The body of a group and its closing parenthesis. -/
def readGroup : Nat → Option Nat → Input → Option (Regex × Input)
  | 0, _, _ => none
  | fuel + 1, index, p =>
      match readAlternatives fuel p with
      | none => none
      | some (r, p) =>
          match p.rest with
          | ')' :: rest =>
              let r := match index with
                | some i => .group i r
                | none => r
              some (r, p.withRest rest)
          | _ => none

end

/-- The expression that a text denotes. -/
def parse? (text : List Char) : Option Regex :=
  match readAlternatives (3 * text.length + 3) (.start text) with
  | some (r, p) => if p.rest = [] then some r else none
  | none => none

end NotebookKernel.Regex
