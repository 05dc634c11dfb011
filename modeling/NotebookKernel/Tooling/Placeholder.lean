/-!
# Placeholders in command lines

A placeholder is a name in braces. Placeholders are filled in one after the other, so a
value that itself holds a placeholder is filled in by those that come later.
-/

namespace NotebookKernel

/-- Replace a text wherever it occurs, from left to right. The number counts the characters of an
occurrence that are still to be passed over. -/
def replaceFrom (needle value : List Char) : Nat → List Char → List Char
  | _, [] => []
  | skip + 1, _ :: cs => replaceFrom needle value skip cs
  | 0, c :: cs =>
      if needle.isPrefixOf (c :: cs) then
        value ++ replaceFrom needle value (needle.length - 1) cs
      else c :: replaceFrom needle value 0 cs

def replaceAll (needle value text : List Char) : List Char := replaceFrom needle value 0 text

namespace Placeholder

/-- The name in braces. -/
def mark (name : String) : List Char := '\x7b' :: (name.toList ++ ['\x7d'])

/-- Fill in one placeholder. -/
def fill (text : List Char) (name value : String) : List Char :=
  replaceAll (mark name) value.toList text

/-- Fill in placeholders in their order. -/
def fillAll (values : List (String × String)) (text : String) : String :=
  String.ofList (values.foldl (fun t v => fill t v.1 v.2) text.toList)

/-- Fill in the placeholders of a command line. -/
def expand (values : List (String × String)) (template : List String) : List String :=
  template.map (fillAll values)

end Placeholder

end NotebookKernel
