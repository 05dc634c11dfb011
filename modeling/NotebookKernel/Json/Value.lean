import NotebookKernel.Number.Binary64

/-!
# JSON values

A number is a whole number of at most 64 bits or a binary64 value; an object is
a list of fields in increasing order of their names. `Value.object` builds
objects from fields in any order, the last one of a name winning.
-/

namespace NotebookKernel.Json

/-- A whole number that fits 64 bits, signed or unsigned. -/
structure Whole where
  val : Int
  lower : -0x8000000000000000 ≤ val
  upper : val < 0x10000000000000000
  deriving DecidableEq

namespace Whole

/-- The whole number of a value that fits. -/
def ofInt? (i : Int) : Option Whole :=
  if h : -0x8000000000000000 ≤ i ∧ i < 0x10000000000000000 then some ⟨i, h.1, h.2⟩ else none

def ofInt (i : Int) : Whole :=
  match ofInt? i with
  | some w => w
  | none => ⟨0, by decide, by decide⟩

end Whole

inductive Number where
  | whole (w : Whole)
  | real (x : Binary64)
  deriving DecidableEq

inductive Value where
  | null
  | bool (b : Bool)
  | number (n : Number)
  | string (s : String)
  | array (items : List Value)
  | fields (entries : List (String × Value))

/-- The fields of an object, in increasing order of their names. -/
abbrev Dict := List (String × Value)

namespace Dict

/-- Put a field in its place, replacing the one of the same name. -/
def insert (name : String) (v : Value) : Dict → Dict
  | [] => [(name, v)]
  | (n, w) :: rest =>
      if name < n then (name, v) :: (n, w) :: rest
      else if name = n then (name, v) :: rest
      else (n, w) :: insert name v rest

/-- Fields in any order, the last one of a name winning. -/
def ofList (entries : List (String × Value)) : Dict :=
  entries.foldl (fun d e => insert e.1 e.2 d) []

def get? (name : String) : Dict → Option Value
  | [] => none
  | (n, v) :: rest => if n = name then some v else get? name rest

def erase (name : String) (d : Dict) : Dict :=
  d.filter (fun e => e.1 ≠ name)

end Dict

namespace Value

def object (entries : List (String × Value)) : Value := .fields (Dict.ofList entries)

def int (i : Int) : Value := .number (.whole (.ofInt i))

def nat (n : Nat) : Value := int n

/-- Field of an object; absent for any other value. -/
def get? (name : String) : Value → Option Value
  | .fields d => Dict.get? name d
  | _ => none

mutual

/-- Structural equality. -/
def same : Value → Value → Bool
  | .null, .null => true
  | .bool a, .bool b => a == b
  | .number a, .number b => decide (a = b)
  | .string a, .string b => a == b
  | .array a, .array b => sameItems a b
  | .fields a, .fields b => sameEntries a b
  | _, _ => false

def sameItems : List Value → List Value → Bool
  | [], [] => true
  | a :: as, b :: bs => same a b && sameItems as bs
  | _, _ => false

def sameEntries : List (String × Value) → List (String × Value) → Bool
  | [], [] => true
  | (m, a) :: as, (n, b) :: bs => m == n && same a b && sameEntries as bs
  | _, _ => false

end

instance : BEq Value := ⟨same⟩

end Value

end NotebookKernel.Json
