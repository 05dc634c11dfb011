import NotebookKernel.Text.Hex
import NotebookKernel.Text.Invisible

/-!
# Quoted text in messages

A string inside a message stands between quotation marks; what would not be seen
as it is gets an escape.
-/

namespace NotebookKernel

/-- One character of a quoted string. -/
def escapeChar (c : Char) : List Char :=
  match c with
  | '\x00' => ['\\', '0']
  | '\t' => ['\\', 't']
  | '\r' => ['\\', 'r']
  | '\n' => ['\\', 'n']
  | '\\' => ['\\', '\\']
  | '"' => ['\\', '"']
  | c =>
      if Unicode.isGraphemeExtend c || Unicode.isInvisible c then
        '\\' :: 'u' :: '\x7b' :: (Nat.toDigits 16 c.toNat ++ ['\x7d'])
      else [c]

/-- A string between quotation marks, with escapes. -/
def quoted (s : String) : String :=
  String.ofList ('"' :: (s.toList.flatMap escapeChar ++ ['"']))

end NotebookKernel
