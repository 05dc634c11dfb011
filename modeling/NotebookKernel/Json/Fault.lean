import NotebookKernel.Text.Quoted
import NotebookKernel.Number.Shortest
import NotebookKernel.Json.Value

/-!
# What can be wrong with JSON

A `Flaw` is a text that is no JSON; a `Mismatch` is JSON of another shape than the
one asked for. `Fault` adds the place, which is known when a text is read and
absent when a value already in memory is converted.
-/

namespace NotebookKernel.Json

/-- A place in a text: the line, from 1, and the bytes read since the line began. -/
structure Place where
  line : Nat
  column : Nat
  deriving Repr, DecidableEq

inductive Flaw where
  | endInValue
  | endInString
  | endInList
  | endInObject
  | colonExpected
  | listCommaOrEndExpected
  | objectCommaOrEndExpected
  | identExpected
  | valueExpected
  | keyNotString
  | trailingComma
  | trailingCharacters
  | invalidNumber
  | numberOutOfRange
  | invalidEscape
  | hexEscapeEnds
  | loneSurrogate
  | invalidCodePoint
  | controlCharacter
  | tooDeep
  deriving Repr, DecidableEq

def Flaw.message : Flaw → String
  | .endInValue => "EOF while parsing a value"
  | .endInString => "EOF while parsing a string"
  | .endInList => "EOF while parsing a list"
  | .endInObject => "EOF while parsing an object"
  | .colonExpected => "expected \x60:\x60"
  | .listCommaOrEndExpected => "expected \x60,\x60 or \x60]\x60"
  | .objectCommaOrEndExpected => "expected \x60,\x60 or \x60\x7d\x60"
  | .identExpected => "expected ident"
  | .valueExpected => "expected value"
  | .keyNotString => "key must be a string"
  | .trailingComma => "trailing comma"
  | .trailingCharacters => "trailing characters"
  | .invalidNumber => "invalid number"
  | .numberOutOfRange => "number out of range"
  | .invalidEscape => "invalid escape"
  | .hexEscapeEnds => "unexpected end of hex escape"
  | .loneSurrogate => "lone leading surrogate in hex escape"
  | .invalidCodePoint => "invalid unicode code point"
  | .controlCharacter => "control character (\\u0000-\\u001F) found while parsing a string"
  | .tooDeep => "recursion limit exceeded"

/-- The kind of value that was found, as far as a message names it. -/
inductive Found where
  | null
  | bool (b : Bool)
  | number (n : Number)
  | string (s : String)
  | sequence
  | map
  deriving DecidableEq

/-- A name between grave accents. -/
def ticked (s : String) : String := "\x60" ++ s ++ "\x60"

def Found.describe : Found → String
  | .null => "null"
  | .bool b => "boolean " ++ ticked (if b then "true" else "false")
  | .number (.whole w) => "integer " ++ ticked (toString w.val)
  | .number (.real x) =>
      "floating point " ++ ticked (String.ofList (Shortest.render Shortest.jsonLayout x))
  | .string s => "string " ++ quoted s
  | .sequence => "sequence"
  | .map => "map"

def Value.found : Value → Found
  | .null => .null
  | .bool b => .bool b
  | .number n => .number n
  | .string s => .string s
  | .array _ => .sequence
  | .fields _ => .map

inductive Mismatch where
  | type (found : Found) (wanted : String)
  | value (found : Found) (wanted : String)
  | missing (field : String)
  | duplicate (field : String)
  | length (count : Nat) (wanted : String)
  | variant (name : String) (allowed : List String)
  deriving DecidableEq

/-- Two names, or more with the last one set off. -/
def alternatives : List String → String
  | [] => "there are no variants"
  | [a] => "expected " ++ ticked a
  | [a, b] => "expected " ++ ticked a ++ " or " ++ ticked b
  | more => "expected one of " ++ ", ".intercalate (more.map ticked)

def Mismatch.message : Mismatch → String
  | .type found wanted => "invalid type: " ++ found.describe ++ ", expected " ++ wanted
  | .value found wanted => "invalid value: " ++ found.describe ++ ", expected " ++ wanted
  | .missing field => "missing field " ++ ticked field
  | .duplicate field => "duplicate field " ++ ticked field
  | .length count wanted => s!"invalid length {count}, expected {wanted}"
  | .variant name allowed => "unknown variant " ++ ticked name ++ ", " ++ alternatives allowed

inductive Fault where
  | flaw (f : Flaw) (place : Place)
  | mismatch (m : Mismatch) (place : Option Place)
  deriving DecidableEq

def Place.suffix (p : Place) : String := s!" at line {p.line} column {p.column}"

def Fault.message : Fault → String
  | .flaw f p => f.message ++ p.suffix
  | .mismatch m none => m.message
  | .mismatch m (some p) => m.message ++ p.suffix

end NotebookKernel.Json
