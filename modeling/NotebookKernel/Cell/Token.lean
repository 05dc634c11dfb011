import NotebookKernel.Text.Blank

/-!
# The token around a cursor

Completion and inspection ask about the token under the cursor, or just before it.
Offsets count characters. The token ends at the nearest delimiters on both sides.
-/

namespace NotebookKernel

/-- A cursor and the token around it, as offsets into a text. -/
structure TokenSpan where
  cursor : Nat
  start : Nat
  stop : Nat
  deriving DecidableEq, Repr

/-- Blanks, parentheses, commas, arithmetic signs and the point. -/
def isDelimiter (c : Char) : Bool :=
  isBlank c || c == '(' || c == ')' || c == ',' || c == '+' || c == '-' || c == '*' || c == '/' ||
    c == '.'

namespace TokenSpan

/-- Walk over a text from offset `index`. A delimiter before the cursor moves the start behind it;
one at or after the cursor ends the token. -/
def bounds (cursor : Nat) : Nat → Nat → List Char → Nat × Nat
  | index, start, [] => (start, index)
  | index, start, c :: rest =>
      if isDelimiter c then
        if cursor ≤ index then (start, index) else bounds cursor (index + 1) (index + 1) rest
      else bounds cursor (index + 1) start rest

/-- The token around a cursor; a cursor beyond the text is at its end. -/
def scan (text : List Char) (cursor : Nat) : TokenSpan :=
  let cursor := min cursor text.length
  let (start, stop) := bounds cursor 0 0 text
  ⟨cursor, start, stop⟩

/-- The byte at which a character starts; beyond the text, the end of the text. -/
def byteOffset : List Char → Nat → Nat
  | [], _ => 0
  | _, 0 => 0
  | c :: rest, index + 1 => c.utf8Size + byteOffset rest index

/-- The first bytes of a text, if a character ends there. -/
def takeBytes? : List Char → Nat → Option (List Char)
  | _, 0 => some []
  | [], _ => none
  | c :: rest, n =>
      if c.utf8Size ≤ n then (takeBytes? rest (n - c.utf8Size)).map (c :: ·) else none

/-- What follows the first bytes of a text, if a character ends there. -/
def dropBytes? : List Char → Nat → Option (List Char)
  | text, 0 => some text
  | [], _ => none
  | c :: rest, n => if c.utf8Size ≤ n then dropBytes? rest (n - c.utf8Size) else none

/-- The text between two bytes, if they are in order and each starts a character or ends
the text. -/
def cut? (text : List Char) (start stop : Nat) : Option (List Char) :=
  if start ≤ stop then (dropBytes? text start).bind fun rest => takeBytes? rest (stop - start)
  else none

/-- The characters from one offset up to another, cut at the end of the text. -/
def slice (text : List Char) (start stop : Nat) : List Char :=
  (cut? text (byteOffset text start) (byteOffset text (max stop start))).getD []

/-- The part of the token before the cursor. -/
def before (s : TokenSpan) (text : List Char) : List Char := slice text s.start s.cursor

/-- The whole token. -/
def token (s : TokenSpan) (text : List Char) : List Char := slice text s.start s.stop

end TokenSpan

end NotebookKernel
