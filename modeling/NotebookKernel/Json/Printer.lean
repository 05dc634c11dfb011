import NotebookKernel.Text.Hex
import NotebookKernel.Number.Shortest
import NotebookKernel.Json.Value

/-!
# JSON text

The compact form of a value: no blanks, fields in the order of the object, and
escapes only where the format demands them.
-/

namespace NotebookKernel.Json

/-- One character of a JSON string. -/
def escape (c : Char) : List Char :=
  match c with
  | '"' => ['\\', '"']
  | '\\' => ['\\', '\\']
  | '\x08' => ['\\', 'b']
  | '\x0c' => ['\\', 'f']
  | '\n' => ['\\', 'n']
  | '\r' => ['\\', 'r']
  | '\t' => ['\\', 't']
  | c =>
      if c.toNat < 0x20 then '\\' :: 'u' :: '0' :: '0' :: Hex.ofByte (UInt8.ofNat c.toNat)
      else [c]

def renderString (s : String) : List Char :=
  '"' :: (s.toList.flatMap escape ++ ['"'])

def renderInt (i : Int) : List Char :=
  if i < 0 then '-' :: Nat.toDigits 10 i.natAbs else Nat.toDigits 10 i.natAbs

def Number.render : Number → List Char
  | .whole w => renderInt w.val
  | .real x => Shortest.render Shortest.jsonLayout x

namespace Value

mutual

/-- Compact text of a value. -/
def render : Value → List Char
  | .null => ['n', 'u', 'l', 'l']
  | .bool true => ['t', 'r', 'u', 'e']
  | .bool false => ['f', 'a', 'l', 's', 'e']
  | .number n => n.render
  | .string s => renderString s
  | .array [] => ['[', ']']
  | .array (v :: vs) => '[' :: (render v ++ renderItems vs)
  | .fields [] => ['\x7b', '\x7d']
  | .fields ((n, v) :: es) => '\x7b' :: (renderString n ++ ':' :: (render v ++ renderEntries es))

/-- The items after the first one, and the closing bracket. -/
def renderItems : List Value → List Char
  | [] => [']']
  | v :: vs => ',' :: (render v ++ renderItems vs)

/-- The fields after the first one, and the closing brace. -/
def renderEntries : List (String × Value) → List Char
  | [] => ['\x7d']
  | (n, v) :: es => ',' :: (renderString n ++ ':' :: (render v ++ renderEntries es))

end

def text (v : Value) : String := String.ofList v.render

end Value

end NotebookKernel.Json
