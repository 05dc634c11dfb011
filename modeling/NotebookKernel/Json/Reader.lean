import NotebookKernel.Text.Utf8
import NotebookKernel.Text.Hex
import NotebookKernel.Json.Fault

/-!
# Reading JSON text

A `Cursor` is what is left of a text together with the place reached. Reading a
value is bounded by the number of brackets that may still be opened; a value that
nobody asked for is skipped, which checks its brackets and commas but neither its
depth nor the size of its numbers.
-/

namespace NotebookKernel.Json

structure Cursor where
  rest : Bytes
  line : Nat
  column : Nat
  deriving Repr

namespace Cursor

def start (bs : Bytes) : Cursor := ⟨bs, 1, 0⟩

def place (c : Cursor) : Place := ⟨c.line, c.column⟩

def peek (c : Cursor) : Option UInt8 := c.rest.head?

/-- One byte further; a line feed begins a new line. -/
def next : Cursor → Cursor
  | ⟨[], l, k⟩ => ⟨[], l, k⟩
  | ⟨b :: bs, l, k⟩ => if b = 0x0A then ⟨bs, l + 1, 0⟩ else ⟨bs, l, k + 1⟩

def advance : Nat → Cursor → Cursor
  | 0, c => c
  | n + 1, c => advance n c.next

def isJsonBlank (b : UInt8) : Bool := b == 0x20 || b == 0x0A || b == 0x0D || b == 0x09

/-- Past the blanks. -/
def skipBlanks (c : Cursor) : Cursor := c.advance (c.rest.takeWhile isJsonBlank).length

/-- A flaw at the place reached. -/
def fail {α : Type} (c : Cursor) (f : Flaw) : Except Fault α := .error (.flaw f c.place)

/-- A flaw at the byte to come. -/
def failNext {α : Type} (c : Cursor) (f : Flaw) : Except Fault α := c.next.fail f

end Cursor

open Cursor

/-! ## Words and strings -/

def isDigit (b : UInt8) : Bool := 0x30 ≤ b && b ≤ 0x39

/-- The rest of a word whose first letter decided what it is. -/
def readIdent : Bytes → Cursor → Except Fault Cursor
  | [], c => .ok c
  | e :: es, c =>
      match c.peek with
      | none => c.fail .endInValue
      | some b => if b = e then readIdent es c.next else c.next.fail .identExpected

def hexValue (b : UInt8) : Option Nat := Hex.value? (Char.ofNat b.toNat)

/-- Four hexadecimal digits. -/
def readHexEscape (c : Cursor) : Except Fault (Nat × Cursor) :=
  match c.rest with
  | w :: x :: y :: z :: _ =>
      let after := c.advance 4
      match hexValue w, hexValue x, hexValue y, hexValue z with
      | some w, some x, some y, some z => .ok (((w * 16 + x) * 16 + y) * 16 + z, after)
      | _, _, _, _ => after.fail .invalidEscape
  | _ => (c.advance 4).fail .endInString

def isLowSurrogate (n : Nat) : Bool := 0xDC00 ≤ n && n ≤ 0xDFFF

def isHighSurrogate (n : Nat) : Bool := 0xD800 ≤ n && n ≤ 0xDBFF

/-- The second half of a character beyond the basic plane. -/
def readLowSurrogate (high : Nat) (c : Cursor) : Except Fault (Char × Cursor) :=
  match c.peek with
  | none => c.fail .endInString
  | some b =>
      if b ≠ 0x5C then c.next.fail .hexEscapeEnds
      else
        let c := c.next
        match c.peek with
        | none => c.fail .endInString
        | some b =>
            if b ≠ 0x75 then c.next.fail .hexEscapeEnds
            else do
              let (low, c) ← readHexEscape c.next
              if isLowSurrogate low then
                .ok (Char.ofNat ((high - 0xD800) * 1024 + (low - 0xDC00) + 0x10000), c)
              else c.fail .loneSurrogate

/-- The character that an escape stands for; the cursor is past the backslash. -/
def readEscape (c : Cursor) : Except Fault (Char × Cursor) :=
  match c.peek with
  | none => c.fail .endInString
  | some b =>
      let after := c.next
      if b = 0x22 then .ok ('"', after)
      else if b = 0x5C then .ok ('\\', after)
      else if b = 0x2F then .ok ('/', after)
      else if b = 0x62 then .ok ('\x08', after)
      else if b = 0x66 then .ok ('\x0c', after)
      else if b = 0x6E then .ok ('\n', after)
      else if b = 0x72 then .ok ('\r', after)
      else if b = 0x74 then .ok ('\t', after)
      else if b = 0x75 then do
        let (n, c) ← readHexEscape after
        if isLowSurrogate n then c.fail .loneSurrogate
        else if isHighSurrogate n then readLowSurrogate n c
        else .ok (Char.ofNat n, c)
      else after.fail .invalidEscape

/-- The bytes of a string up to its closing mark, newest first in `acc`. -/
def readStringBytes : Nat → Bytes → Cursor → Except Fault (Bytes × Cursor)
  | 0, _, c => c.fail .endInString
  | fuel + 1, acc, c =>
      match c.peek with
      | none => c.fail .endInString
      | some b =>
          if b = 0x22 then .ok (acc.reverse, c.next)
          else if b = 0x5C then do
            let (ch, c) ← readEscape c.next
            readStringBytes fuel ((String.utf8EncodeChar ch).reverse ++ acc) c
          else if b < 0x20 then c.next.fail .controlCharacter
          else readStringBytes fuel (b :: acc) c.next

/-- A string; the cursor is past its opening mark. -/
def readString (c : Cursor) : Except Fault (String × Cursor) := do
  let (bs, after) ← readStringBytes (c.rest.length + 1) [] c
  match Utf8.toString? bs with
  | some s => .ok (s, after)
  | none =>
      match Utf8.decode (c.rest.take (c.rest.length - after.rest.length - 1)) with
      | .error f => (c.advance (f.validUpTo + 1)).fail .invalidCodePoint
      | .ok _ => after.fail .invalidCodePoint

def isEscapeLetter (b : UInt8) : Bool :=
  b == 0x22 || b == 0x5C || b == 0x2F || b == 0x62 || b == 0x66 || b == 0x6E || b == 0x72 ||
    b == 0x74

/-- Past a string whose text does not matter. -/
def skipStringFrom : Nat → Cursor → Except Fault Cursor
  | 0, c => c.fail .endInString
  | fuel + 1, c =>
      match c.peek with
      | none => c.fail .endInString
      | some b =>
          if b = 0x22 then .ok c.next
          else if b = 0x5C then
            let c := c.next
            match c.peek with
            | none => c.fail .endInString
            | some e =>
                if isEscapeLetter e then skipStringFrom fuel c.next
                else if e = 0x75 then
                  match readHexEscape c.next with
                  | .ok (_, c) => skipStringFrom fuel c
                  | .error f => .error f
                else c.next.fail .invalidEscape
          else if b < 0x20 then c.fail .controlCharacter
          else skipStringFrom fuel c.next

def skipString (c : Cursor) : Except Fault Cursor := skipStringFrom (c.rest.length + 1) c

/-! ## Numbers -/

/-- The digits at the cursor. -/
def takeDigits (c : Cursor) : List Nat × Cursor :=
  let ds := c.rest.takeWhile isDigit
  (ds.map (fun b => b.toNat - 0x30), c.advance ds.length)

/-- Take digits into a number as long as it stays within `limit`; the others are left. -/
def absorb (limit : Nat) : Nat → List Nat → Nat × List Nat
  | n, [] => (n, [])
  | n, d :: ds => if n * 10 + d ≤ limit then absorb limit (n * 10 + d) ds else (n, d :: ds)

/-- The largest significand that is kept exactly. -/
def significandLimit : Nat := UInt64.size - 1

/-- The largest exponent that is told from an overflow. -/
def exponentLimit : Nat := 0x7FFFFFFF

/-- The number read, or out of range. -/
def finishReal (negative : Bool) (significand : Nat) (exponent : Int) (c : Cursor) :
    Except Fault (Number × Cursor) :=
  match Binary64.ofDecimal significand exponent with
  | some x => .ok (.real (x.withSign negative), c)
  | none => c.fail .numberOutOfRange

/-- The exponent of a number; the cursor is at its letter. -/
def readExponent (negative : Bool) (significand : Nat) (start : Int) (c : Cursor) :
    Except Fault (Number × Cursor) :=
  let c := c.next
  let (down, c) := match c.peek with
    | some 0x2B => (false, c.next)
    | some 0x2D => (true, c.next)
    | _ => (false, c)
  match c.peek with
  | none => c.fail .endInValue
  | some b =>
      if isDigit b then
        let (ds, after) := takeDigits c
        match absorb exponentLimit 0 ds with
        | (e, []) => finishReal negative significand (if down then start - e else start + e) after
        | (_, _ :: more) =>
            if significand ≠ 0 ∧ ¬ down then
              (c.advance (ds.length - more.length)).fail .numberOutOfRange
            else .ok (.real (Binary64.zero.withSign negative), after)
      else c.next.fail .invalidNumber

def isExponentLetter (b : UInt8) : Bool := b == 0x65 || b == 0x45

/-- The part after the point; the cursor is at the point. Digits beyond the limit are dropped. -/
def readFraction (negative : Bool) (significand : Nat) (start : Int) (c : Cursor) :
    Except Fault (Number × Cursor) :=
  let c := c.next
  let (ds, after) := takeDigits c
  if ds = [] then
    match c.peek with
    | some _ => c.failNext .invalidNumber
    | none => c.fail .endInValue
  else
    let (s, dropped) := absorb significandLimit significand ds
    let exponent := start - (ds.length - dropped.length : Nat)
    match after.peek with
    | some b =>
        if isExponentLetter b then readExponent negative s exponent after
        else finishReal negative s exponent after
    | none => finishReal negative s exponent after

/-- A whole number within 64 bits, or the nearest real. The negative zero is real. -/
def finishWhole (negative : Bool) (n : Nat) (c : Cursor) : Except Fault (Number × Cursor) :=
  if negative = true ∧ n = 0 then .ok (.real (Binary64.zero.withSign true), c)
  else
    match Whole.ofInt? (if negative then -n else n) with
    | some w => .ok (.whole w, c)
    | none => finishReal negative n 0 c

/-- What follows the integer digits; `extra` of them were not kept. -/
def readNumberTail (negative : Bool) (n : Nat) (extra : Nat) (c : Cursor) :
    Except Fault (Number × Cursor) :=
  match c.peek with
  | some b =>
      if b = 0x2E then readFraction negative n extra c
      else if isExponentLetter b then readExponent negative n extra c
      else if extra = 0 then finishWhole negative n c else finishReal negative n extra c
  | none => if extra = 0 then finishWhole negative n c else finishReal negative n extra c

/-- A number after its sign. -/
def readNumber (negative : Bool) (c : Cursor) : Except Fault (Number × Cursor) :=
  match c.peek with
  | none => c.fail .endInValue
  | some b =>
      if b = 0x30 then
        match c.next.peek with
        | some d =>
            if isDigit d then c.next.failNext .invalidNumber
            else readNumberTail negative 0 0 c.next
        | none => readNumberTail negative 0 0 c.next
      else if isDigit b then
        let (ds, after) := takeDigits c
        let (n, extra) := absorb significandLimit 0 ds
        readNumberTail negative n extra.length after
      else c.next.fail .invalidNumber

/-- Past the exponent of a number. -/
def skipExponent (c : Cursor) : Except Fault Cursor :=
  let c := c.next
  let c := match c.peek with
    | some 0x2B => c.next
    | some 0x2D => c.next
    | _ => c
  match c.peek with
  | some b => if isDigit b then .ok (takeDigits c).2 else c.next.fail .invalidNumber
  | none => c.fail .invalidNumber

/-- Past what follows the integer digits. -/
def skipNumberTail (c : Cursor) : Except Fault Cursor :=
  match c.peek with
  | some b =>
      if b = 0x2E then
        let (ds, after) := takeDigits c.next
        if ds = [] then c.next.failNext .invalidNumber
        else match after.peek with
          | some e => if isExponentLetter e then skipExponent after else .ok after
          | none => .ok after
      else if isExponentLetter b then skipExponent c
      else .ok c
  | none => .ok c

/-- Past a number, whatever its size. -/
def skipNumber (c : Cursor) : Except Fault Cursor :=
  match c.peek with
  | none => c.fail .invalidNumber
  | some b =>
      if b = 0x30 then
        match c.next.peek with
        | some d => if isDigit d then c.next.failNext .invalidNumber else skipNumberTail c.next
        | none => skipNumberTail c.next
      else if isDigit b then skipNumberTail (takeDigits c).2
      else c.next.fail .invalidNumber

/-! ## Lists and objects -/

/-- Is there another item? The cursor ends before it, or before the closing bracket. -/
def anotherItem (first : Bool) (c : Cursor) : Except Fault (Bool × Cursor) :=
  let c := c.skipBlanks
  match c.peek with
  | none => c.fail .endInList
  | some b =>
      if b = 0x5D then .ok (false, c)
      else if first then .ok (true, c)
      else if b = 0x2C then
        let c := c.next.skipBlanks
        match c.peek with
        | some 0x5D => c.failNext .trailingComma
        | some _ => .ok (true, c)
        | none => c.fail .endInValue
      else c.failNext .listCommaOrEndExpected

/-- The end of a list. -/
def closeList (c : Cursor) : Except Fault Cursor :=
  let c := c.skipBlanks
  match c.peek with
  | some 0x5D => .ok c.next
  | some 0x2C =>
      let c := c.next.skipBlanks
      match c.peek with
      | some 0x5D => c.failNext .trailingComma
      | _ => c.failNext .trailingCharacters
  | some _ => c.failNext .trailingCharacters
  | none => c.fail .endInList

/-- How far closing a list gets, whether it succeeds or not. -/
def settleList (c : Cursor) : Cursor :=
  let c := c.skipBlanks
  match c.peek with
  | some 0x5D => c.next
  | some 0x2C => c.next.skipBlanks
  | _ => c

/-- Is there another field? The cursor ends before its name, or before the closing brace. -/
def anotherField (first : Bool) (c : Cursor) : Except Fault (Bool × Cursor) :=
  let c := c.skipBlanks
  match c.peek with
  | none => c.fail .endInObject
  | some b =>
      if b = 0x7D then .ok (false, c)
      else if first then
        if b = 0x22 then .ok (true, c) else c.failNext .keyNotString
      else if b = 0x2C then
        let c := c.next.skipBlanks
        match c.peek with
        | some 0x22 => .ok (true, c)
        | some 0x7D => c.failNext .trailingComma
        | some _ => c.failNext .keyNotString
        | none => c.fail .endInValue
      else c.failNext .objectCommaOrEndExpected

/-- The end of an object. -/
def closeObject (c : Cursor) : Except Fault Cursor :=
  let c := c.skipBlanks
  match c.peek with
  | some 0x7D => .ok c.next
  | some 0x2C => c.failNext .trailingComma
  | some _ => c.failNext .trailingCharacters
  | none => c.fail .endInObject

/-- How far closing an object gets, whether it succeeds or not. -/
def settleObject (c : Cursor) : Cursor :=
  let c := c.skipBlanks
  match c.peek with
  | some 0x7D => c.next
  | _ => c

/-- The colon between a name and its value. -/
def readColon (c : Cursor) : Except Fault Cursor :=
  let c := c.skipBlanks
  match c.peek with
  | some 0x3A => .ok c.next
  | some _ => c.failNext .colonExpected
  | none => c.fail .endInObject

/-- All items of a list, newest first in `acc`; the closing bracket is left. -/
def readItems {α : Type} (read : Cursor → Except Fault (α × Cursor)) :
    Nat → Bool → List α → Cursor → Except Fault (List α × Cursor)
  | 0, _, _, c => c.fail .endInList
  | fuel + 1, first, acc, c =>
      match anotherItem first c with
      | .error f => .error f
      | .ok (false, c) => .ok (acc.reverse, c)
      | .ok (true, c) =>
          match read c with
          | .error f => .error f
          | .ok (a, c) => readItems read fuel false (a :: acc) c

/-- All fields of an object, each read into a state; the closing brace is left. -/
def readFields {σ : Type} (read : String → σ → Cursor → Except Fault (σ × Cursor)) :
    Nat → Bool → σ → Cursor → Except Fault (σ × Cursor)
  | 0, _, _, c => c.fail .endInObject
  | fuel + 1, first, s, c =>
      match anotherField first c with
      | .error f => .error f
      | .ok (false, c) => .ok (s, c)
      | .ok (true, c) =>
          match readString c.next with
          | .error f => .error f
          | .ok (name, c) =>
              match read name s c with
              | .error f => .error f
              | .ok (s, c) => readFields read fuel false s c

/-- A field of a free-form object. -/
def readEntry (readValue : Cursor → Except Fault (Value × Cursor)) (name : String) (d : Dict)
    (c : Cursor) : Except Fault (Dict × Cursor) := do
  let c ← readColon c
  let (v, c) ← readValue c
  .ok (d.insert name v, c)

/-- A list, from its opening bracket on. -/
def readList {α : Type} (read : Cursor → Except Fault (α × Cursor)) (c : Cursor) :
    Except Fault (List α × Cursor) := do
  let (items, c) ← readItems read (c.rest.length + 1) true [] c.next
  let c ← closeList c
  .ok (items, c)

/-- An object, from its opening brace on. -/
def readObject {σ : Type} (read : String → σ → Cursor → Except Fault (σ × Cursor)) (s : σ)
    (c : Cursor) : Except Fault (σ × Cursor) := do
  let (s, c) ← readFields read (c.rest.length + 1) true s c.next
  let c ← closeObject c
  .ok (s, c)

/-! ## Values -/

/-- A scalar whose first byte is `b`; nothing if `b` begins no scalar. -/
def readScalar (b : UInt8) (c : Cursor) : Option (Except Fault (Value × Cursor)) :=
  if b = 0x6E then some (do
    let c ← readIdent [0x75, 0x6C, 0x6C] c.next
    .ok (.null, c))
  else if b = 0x74 then some (do
    let c ← readIdent [0x72, 0x75, 0x65] c.next
    .ok (.bool true, c))
  else if b = 0x66 then some (do
    let c ← readIdent [0x61, 0x6C, 0x73, 0x65] c.next
    .ok (.bool false, c))
  else if b = 0x2D then some (do
    let (n, c) ← readNumber true c.next
    .ok (.number n, c))
  else if isDigit b then some (do
    let (n, c) ← readNumber false c
    .ok (.number n, c))
  else if b = 0x22 then some (do
    let (s, c) ← readString c.next
    .ok (.string s, c))
  else none

/-- A value; at most `room` brackets may be open at once. -/
def readValue (room : Nat) (c : Cursor) : Except Fault (Value × Cursor) :=
  let c := c.skipBlanks
  match c.peek with
  | none => c.fail .endInValue
  | some b =>
      match readScalar b c with
      | some r => r
      | none =>
          if b = 0x5B then
            match room with
            | 0 => c.failNext .tooDeep
            | room + 1 => do
                let (items, c) ← readList (readValue room) c
                .ok (.array items, c)
          else if b = 0x7B then
            match room with
            | 0 => c.failNext .tooDeep
            | room + 1 => do
                let (d, c) ← readObject (readEntry (readValue room)) [] c
                .ok (.fields d, c)
          else c.failNext .valueExpected

/-- Brackets that may be open at once in the texts that the kernel reads. -/
def standardRoom : Nat := 127

/-! ## Values that nobody asked for -/

inductive Frame where
  | list
  | object
  deriving DecidableEq

/-- Past the name and colon of a field, if the frame is an object. -/
def skipName (f : Frame) (c : Cursor) : Except Fault Cursor :=
  match f with
  | .list => .ok c
  | .object =>
      let c := c.skipBlanks
      match c.peek with
      | some 0x22 => do readColon (← skipString c.next)
      | some _ => c.failNext .keyNotString
      | none => c.fail .endInObject

/-- Past a scalar whose first byte is `b`; nothing if `b` begins no scalar. -/
def skipScalar (b : UInt8) (c : Cursor) : Option (Except Fault Cursor) :=
  if b = 0x6E then some (readIdent [0x75, 0x6C, 0x6C] c.next)
  else if b = 0x74 then some (readIdent [0x72, 0x75, 0x65] c.next)
  else if b = 0x66 then some (readIdent [0x61, 0x6C, 0x73, 0x65] c.next)
  else if b = 0x2D then some (skipNumber c.next)
  else if isDigit b then some (skipNumber c)
  else if b = 0x22 then some (skipString c.next)
  else none

/-- One position within skipped text: before a value, or inside the innermost frame, where a comma
is accepted once an item has been read. -/
inductive Stage where
  | value
  | inside (acceptComma : Bool)

def skipFrom : Nat → List Frame → Stage → Cursor → Except Fault Cursor
  | 0, _, _, c => c.fail .endInValue
  | fuel + 1, frames, .value, c =>
      let c := c.skipBlanks
      match c.peek with
      | none => c.fail .endInValue
      | some b =>
          match skipScalar b c with
          | some r =>
              match r with
              | .error f => .error f
              | .ok c => if frames = [] then .ok c else skipFrom fuel frames (.inside true) c
          | none =>
              if b = 0x5B then skipFrom fuel (.list :: frames) (.inside false) c.next
              else if b = 0x7B then skipFrom fuel (.object :: frames) (.inside false) c.next
              else c.failNext .valueExpected
  | _ + 1, [], .inside _, c => .ok c
  | fuel + 1, f :: outer, .inside acceptComma, c =>
      let c := c.skipBlanks
      match c.peek with
      | none => c.fail (match f with | .list => .endInList | .object => .endInObject)
      | some b =>
          if b = 0x2C ∧ acceptComma = true then
            match skipName f c.next with
            | .error e => .error e
            | .ok c => skipFrom fuel (f :: outer) .value c
          else if b = 0x5D ∧ f = .list ∨ b = 0x7D ∧ f = .object then
            if outer = [] then .ok c.next else skipFrom fuel outer (.inside true) c.next
          else if acceptComma then
            c.failNext (match f with
              | .list => .listCommaOrEndExpected
              | .object => .objectCommaOrEndExpected)
          else
            match skipName f c with
            | .error e => .error e
            | .ok c => skipFrom fuel (f :: outer) .value c

/-- Past a value. -/
def skipValue (c : Cursor) : Except Fault Cursor :=
  skipFrom (2 * c.rest.length + 2) [] .value c

/-! ## Whole texts -/

/-- Nothing but blanks may follow. -/
def finish {α : Type} (r : Except Fault (α × Cursor)) : Except Fault α :=
  match r with
  | .error f => .error f
  | .ok (a, c) =>
      let c := c.skipBlanks
      match c.peek with
      | none => .ok a
      | some _ => c.failNext .trailingCharacters

/-- The value that a text denotes, at most `room` brackets deep. -/
def parseWithin (room : Nat) (bs : Bytes) : Except Fault Value :=
  finish (readValue room (.start bs))

/-- The value that a text denotes. -/
def parse (bs : Bytes) : Except Fault Value := parseWithin standardRoom bs

end NotebookKernel.Json
