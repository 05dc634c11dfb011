import NotebookKernel.Pattern.Parser

/-!
# Names of cells

A cell is compiled as a module. Either its name is a stem followed by its number,
or it is declared in the source and found by a pattern's first group.
-/

namespace NotebookKernel

inductive ModuleNaming where
  | sequential (stem : String)
  | declared (pattern : String) (expression : Regex)

namespace ModuleNaming

/-- Cells are named `Cell0`, `Cell1` and so on. -/
def standard : ModuleNaming := .sequential "Cell"

/-- Names found by a pattern, if it is an expression. -/
def ofPattern? (pattern : String) : Option ModuleNaming :=
  (Regex.parse? pattern.toList).map (.declared pattern)

/-- The module that a cell is compiled as; nothing if its source declares none. -/
def moduleOf (naming : ModuleNaming) (sequence : Int) (source : String) : Option String :=
  match naming with
  | .sequential stem => some (stem ++ (if sequence < 0 then "Setup" else toString sequence))
  | .declared _ expression => (expression.capture? 1 source.toList).map String.ofList

theorem isDigit_of_mem_number {n : Nat} {c : Char} (member : c ∈ (toString n).toList) :
    c.isDigit = true := by
  rw [Nat.toString_eq_repr, Nat.toList_repr] at member
  exact Nat.isDigit_of_mem_toDigits (by decide) (by decide) member

end ModuleNaming

end NotebookKernel
