/-!
# Blank characters

White space in the Unicode sense, and trimming by it.
-/

namespace NotebookKernel

/-- Unicode white space. -/
def isBlank (c : Char) : Bool :=
  let n := c.toNat
  (9 ≤ n && n ≤ 13) || n == 0x20 || n == 0x85 || n == 0xA0 || n == 0x1680 ||
    (0x2000 ≤ n && n ≤ 0x200A) || n == 0x2028 || n == 0x2029 || n == 0x202F ||
    n == 0x205F || n == 0x3000

/-- Text without the blanks at its end. -/
def trimEnd (s : String) : String :=
  String.ofList (s.toList.reverse.dropWhile isBlank).reverse

/-- Text without the blanks at either end. -/
def trim (s : String) : String :=
  String.ofList ((s.toList.dropWhile isBlank).reverse.dropWhile isBlank).reverse

/-- Pieces of a text between occurrences of one character. -/
def splitAtChar (sep : Char) : List Char → List (List Char)
  | [] => [[]]
  | c :: rest =>
      match splitAtChar sep rest with
      | [] => [[c]]
      | piece :: more => if c = sep then [] :: piece :: more else (c :: piece) :: more

theorem splitAtChar_ne_nil (sep : Char) (cs : List Char) : splitAtChar sep cs ≠ [] := by
  cases cs with
  | nil => simp [splitAtChar]
  | cons c rest => simp only [splitAtChar]; split <;> (try split) <;> simp

/-- A text without the character is one piece. -/
theorem splitAtChar_free {sep : Char} {cs : List Char} (free : sep ∉ cs) :
    splitAtChar sep cs = [cs] := by
  induction cs with
  | nil => rfl
  | cons c rest ih =>
    rw [List.mem_cons, not_or] at free
    rw [splitAtChar, ih free.2]
    exact if_neg (Ne.symm free.1)

theorem splitAtChar_append (sep : Char) (cs ds : List Char) :
    splitAtChar sep (cs ++ sep :: ds) = splitAtChar sep cs ++ splitAtChar sep ds := by
  induction cs with
  | nil =>
    obtain ⟨piece, more, pieces⟩ := List.exists_cons_of_ne_nil (splitAtChar_ne_nil sep ds)
    simp [splitAtChar, pieces]
  | cons c rest ih =>
    obtain ⟨piece, more, pieces⟩ := List.exists_cons_of_ne_nil (splitAtChar_ne_nil sep rest)
    rw [List.cons_append, splitAtChar, ih, splitAtChar, pieces, List.cons_append]
    by_cases here : c = sep
    · simp [here]
    · simp [here]

/-- The lines of a text; a trailing line feed gives an empty last line. -/
def splitLines (s : String) : List String :=
  (splitAtChar '\n' s.toList).map String.ofList

end NotebookKernel
