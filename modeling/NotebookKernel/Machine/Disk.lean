import NotebookKernel.Text.Blank
import NotebookKernel.Message.ProtocolError

/-!
# Files in memory

A disk holds directories and files under one root. A path is the list of names that
lead from the root to an entry. The text of a path may also hold empty names, points
and double points; `Disk.resolve` follows them as it goes, so that every name but the
last has to be the name of a directory. A text with a NUL in it is not looked up at all, nor is
one that is too long.
-/

namespace NotebookKernel

abbrev Path := List String

inductive Entry where
  | directory
  | file (content : Bytes)
  deriving DecidableEq

structure Disk where
  entries : List (Path × Entry)

namespace Disk

/-- Nothing but the root. -/
def empty : Disk := ⟨[]⟩

def get? (d : Disk) (p : Path) : Option Entry :=
  if p = [] then some .directory else (d.entries.find? fun e => e.1 == p).map (·.2)

def isDirectory (d : Disk) (p : Path) : Bool := d.get? p == some .directory

/-- Put an entry in its place. -/
def put (d : Disk) (p : Path) (e : Entry) : Disk :=
  ⟨(p, e) :: d.entries.filter fun old => old.1 != p⟩

/-- Remove an entry and all that is below it. -/
def erase (d : Disk) (p : Path) : Disk := ⟨d.entries.filter fun e => !p.isPrefixOf e.1⟩

/-- A directory and all those above it. -/
def makeDirectory (d : Disk) (p : Path) : Disk :=
  (List.range p.length).foldl (fun d n =>
    let q := p.take (n + 1)
    if (d.get? q).isSome then d else d.put q .directory) d

/-- The names in the text of a path. -/
def names (text : String) : List String := (splitAtChar '/' text.toList).map String.ofList

/-- Follow names from an entry. -/
def follow (d : Disk) (here : Path) : List String → Except FileFault Path
  | [] => .ok here
  | name :: rest =>
      match d.get? here with
      | none => .error .notFound
      | some (.file _) => .error .notDirectory
      | some .directory =>
          if name = "" ∨ name = "." then d.follow here rest
          else if name = ".." then d.follow here.dropLast rest
          else if 255 < name.utf8ByteSize then .error .nameTooLong
          else d.follow (here ++ [name]) rest

/-- Does a text hold a NUL? -/
def hasNul (text : String) : Bool := text.toList.contains '\x00'

/-- The number of bytes that the text of a path has to stay below. -/
def textLimit : Nat := 4096

/-- The path for a text that is read in a directory. -/
def resolve (d : Disk) (here : Path) (text : String) : Except FileFault Path :=
  if hasNul text then .error .nulInName
  else if textLimit ≤ text.utf8ByteSize then .error .nameTooLong
  else
    match text.toList with
    | [] => .error .notFound
    | '/' :: _ => d.follow [] (names text)
    | _ => d.follow here (names text)

def read (d : Disk) (here : Path) (text : String) : Except FileFault Bytes :=
  match d.resolve here text with
  | .error f => .error f
  | .ok p =>
      match d.get? p with
      | none => .error .notFound
      | some .directory => .error .isDirectory
      | some (.file content) => .ok content

/-- Replace the content of a file. The directory it is in has to exist. -/
def write (d : Disk) (here : Path) (text : String) (content : Bytes) :
    Except FileFault (Path × Disk) :=
  match d.resolve here text with
  | .error f => .error f
  | .ok p => if d.isDirectory p then .error .isDirectory else .ok (p, d.put p (.file content))

/-- The names in a directory, in order. -/
def list (d : Disk) (p : Path) : List String :=
  (d.entries.filterMap fun e =>
    if e.1.length = p.length + 1 ∧ p.isPrefixOf e.1 then e.1.getLast? else none).mergeSort
      fun a b => a ≤ b

/-- The text of a path. -/
def text (p : Path) : String := if p = [] then "/" else String.join (p.map ("/" ++ ·))

end Disk

end NotebookKernel
