import NotebookKernel.Cell.Naming

/-!
# The cells of a session

The setup cell, the cells submitted so far in their order, and the cell that is
being edited. Submitted cells never change. Their numbers have no bound.
-/

namespace NotebookKernel

/-- A unit of source and the module it is compiled as. -/
structure Cell where
  sequence : Int
  source : String
  module : Option String
  deriving DecidableEq, Repr

namespace Cell

/-- The number of the setup cell. -/
def setupSequence : Int := -1

def make (naming : ModuleNaming) (sequence : Int) (source : String) : Cell :=
  ⟨sequence, source, naming.moduleOf sequence source⟩

def isSetup (c : Cell) : Bool := c.sequence == setupSequence

end Cell

structure CellStore where
  naming : ModuleNaming
  submitted : List Cell
  current : Cell
  setup : Cell

namespace CellStore

def new (naming : ModuleNaming) (setupSource : String) : CellStore :=
  ⟨naming, [], .make naming 0 "", .make naming Cell.setupSequence setupSource⟩

/-- Change the text of the current cell. -/
def update (s : CellStore) (text : String) : CellStore :=
  if s.current.source = text then s
  else { s with current := .make s.naming s.current.sequence text }

/-- Submit the current cell and begin the next one. -/
def submit (s : CellStore) : Cell × CellStore :=
  (s.current,
    { s with
      submitted := s.submitted ++ [s.current]
      current := .make s.naming (s.current.sequence + 1) "" })

@[simp] theorem update_source (s : CellStore) (text : String) :
    (s.update text).current.source = text := by
  unfold update
  split
  · assumption
  · rfl

@[simp] theorem update_sequence (s : CellStore) (text : String) :
    (s.update text).current.sequence = s.current.sequence := by
  unfold update; split <;> rfl

@[simp] theorem update_submitted (s : CellStore) (text : String) :
    (s.update text).submitted = s.submitted := by
  unfold update; split <;> rfl

@[simp] theorem update_setup (s : CellStore) (text : String) :
    (s.update text).setup = s.setup := by
  unfold update; split <;> rfl

/-- Giving the current cell a text puts the cell with this text in its place. -/
theorem update_made {c : CellStore} {n : Int} {before text : String}
    (made : c.current = .make c.naming n before) :
    c.update text = ⟨c.naming, c.submitted, .make c.naming n text, c.setup⟩ := by
  obtain ⟨names, past, edited, first⟩ := c
  simp only at made
  subst made
  unfold CellStore.update
  by_cases still : before = text
  · simp [Cell.make, still]
  · simp [Cell.make, still]

def size (s : CellStore) : Nat := s.submitted.length

def isEmpty (s : CellStore) : Bool := s.submitted.isEmpty

end CellStore

end NotebookKernel
