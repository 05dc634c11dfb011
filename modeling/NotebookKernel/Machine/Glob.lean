/-!
# Patterns for names

A star stands for any characters, a question mark for one, and brackets for one out of
a set. Characters that were quoted stand for themselves.
-/

namespace NotebookKernel.Glob

/-- A character of a pattern, and whether it was quoted. -/
structure Mark where
  char : Char
  quoted : Bool
  deriving DecidableEq, Repr

inductive Item where
  | exactly (c : Char)
  | one
  | any
  | set (negated : Bool) (ranges : List (Char × Char))

def Mark.closes (m : Mark) (first : Bool) : Bool := m.char == ']' && !m.quoted && !first

/-- The ranges up to the closing bracket, which does not close when it comes first. -/
def readSet (first : Bool) : List Mark → Option (List (Char × Char) × List Mark)
  | [] => none
  | m :: ⟨'-', false⟩ :: n :: rest =>
      if m.closes first then some ([], ⟨'-', false⟩ :: n :: rest)
      else if n.closes false then some ([(m.char, m.char), ('-', '-')], rest)
      else (readSet false rest).map fun (rs, r) => ((m.char, n.char) :: rs, r)
  | m :: rest =>
      if m.closes first then some ([], rest)
      else (readSet false rest).map fun (rs, r) => ((m.char, m.char) :: rs, r)

def readItems : Nat → List Mark → List Item
  | 0, _ => []
  | _, [] => []
  | fuel + 1, ⟨c, quoted⟩ :: rest =>
      if quoted then .exactly c :: readItems fuel rest
      else if c = '*' then .any :: readItems fuel rest
      else if c = '?' then .one :: readItems fuel rest
      else if c = '[' then
        let (negated, body) := match rest with
          | ⟨'!', false⟩ :: body => (true, body)
          | ⟨'^', false⟩ :: body => (true, body)
          | body => (false, body)
        match readSet true body with
        | some (ranges, rest) => .set negated ranges :: readItems fuel rest
        | none => .exactly c :: readItems fuel rest
      else .exactly c :: readItems fuel rest

def ofMarks (marks : List Mark) : List Item := readItems marks.length marks

def Item.accepts : Item → Char → Bool
  | exactly d, c => c == d
  | one, _ => true
  | any, _ => true
  | set negated ranges, c => negated != ranges.any fun (a, b) => a ≤ c && c ≤ b

/-- Do the items fit the whole text? -/
def fits : List Item → List Char → Bool
  | [], text => text.isEmpty
  | .any :: items, [] => fits items []
  | .any :: items, c :: text => fits items (c :: text) || fits (.any :: items) text
  | item :: items, c :: text => item.accepts c && fits items text
  | _ :: _, [] => false

/-- Does anything in the pattern stand for more than itself? -/
def isProper (items : List Item) : Bool :=
  items.any fun
    | .exactly _ => false
    | _ => true

end NotebookKernel.Glob
