import NotebookKernel.Text.Blank
import NotebookKernel.Text.WordCharacter
import NotebookKernel.Text.CaseFold

/-!
# Regular expressions and their search

A search finds the leftmost match; among the matches that start there, the
alternatives and repetitions are tried in the order in which the expression
prefers them. `Regex.run` tries them with a continuation for what follows.

A repetition without a limit goes on only as long as its body takes characters, so every
search ends. Look-around and back references are not expressions of this kind.
-/

namespace NotebookKernel

/-- A part of a character class. -/
inductive ClassItem where
  | range (low high : Nat)
  | digit (negated : Bool)
  | space (negated : Bool)
  | word (negated : Bool)
  deriving DecidableEq, Repr

def ClassItem.matches (i : ClassItem) (c : Char) : Bool :=
  match i with
  | .range low high => low ≤ c.toNat && c.toNat ≤ high
  | .digit negated => Unicode.isDecimalDigit c != negated
  | .space negated => isBlank c != negated
  | .word negated => Unicode.isWordCharacter c != negated

/-- A set of characters; with `anyCase` a character counts with all its case variants. -/
structure CharClass where
  items : List ClassItem
  negated : Bool
  anyCase : Bool
  deriving DecidableEq, Repr

def CharClass.matches (k : CharClass) (c : Char) : Bool :=
  let variants := if k.anyCase then (Unicode.caseVariants c.toNat).map Char.ofNat else [c]
  (variants.any fun v => k.items.any (·.matches v)) != k.negated

/-- Conditions on a place in a text. -/
inductive Anchor where
  | textStart
  | textEnd
  | lineStart
  | lineEnd
  | wordBoundary
  | notWordBoundary
  deriving DecidableEq, Repr

inductive Regex where
  | empty
  | one (k : CharClass)
  | anchor (a : Anchor)
  | group (index : Nat) (r : Regex)
  | seq (a b : Regex)
  | alt (a b : Regex)
  | repeated (r : Regex) (least : Nat) (most : Option Nat) (greedy : Bool)
  deriving Repr

namespace Regex

/-- A place in a text: the character before it and the characters after it. -/
structure Spot where
  previous : Option Char
  rest : List Char

/-- What groups captured, the latest first. -/
abbrev Captures := List (Nat × List Char)

def isWord (c : Option Char) : Bool :=
  match c with
  | some c => Unicode.isWordCharacter c
  | none => false

def anchorHolds (a : Anchor) (s : Spot) : Bool :=
  match a with
  | .textStart => s.previous.isNone
  | .textEnd => s.rest.isEmpty
  | .lineStart => s.previous.isNone || s.previous == some '\n'
  | .lineEnd => s.rest.isEmpty || s.rest.head? == some '\n'
  | .wordBoundary => isWord s.previous != isWord s.rest.head?
  | .notWordBoundary => isWord s.previous == isWord s.rest.head?

/-- A matcher that goes on with what follows it. -/
abbrev Matcher (α : Type) := Spot → Captures → (Spot → Captures → Option α) → Option α

/-- Match exactly `n` times. -/
def exactly {α : Type} (step : Matcher α) : Nat → Matcher α
  | 0, s, c, k => k s c
  | n + 1, s, c, k => step s c fun s c => exactly step n s c k

/-- Try one way and then the other: first to repeat if the repetition is greedy. -/
def prefer {α : Type} (greedy : Bool) (again stop : Unit → Option α) : Option α :=
  let (first, second) := if greedy then (again, stop) else (stop, again)
  match first () with
  | some r => some r
  | none => second ()

/-- Match at most `n` times. -/
def atMost {α : Type} (step : Matcher α) (greedy : Bool) : Nat → Matcher α
  | 0, s, c, k => k s c
  | n + 1, s, c, k =>
      prefer greedy (fun _ => step s c fun s c => atMost step greedy n s c k) fun _ => k s c

/-- Did a match from one place to another take any characters? -/
def tookSome (s t : Spot) : Bool := t.rest.length < s.rest.length

/-- Match any number of times more. Each time has to take characters. -/
def further {α : Type} (step : Matcher α) (greedy : Bool) : Nat → Matcher α
  | 0, s, c, k => k s c
  | fuel + 1, s, c, k =>
      prefer greedy
        (fun _ => step s c fun t c => if tookSome s t then further step greedy fuel t c k else none)
        fun _ => k s c

/-- Match at least once. Only the first time may take nothing, and is then the last. -/
def onceOrMore {α : Type} (step : Matcher α) (greedy : Bool) : Matcher α := fun s c k =>
  step s c fun t c =>
    if tookSome s t then further step greedy (t.rest.length + 1) t c k else k t c

/-- The characters between two places of one text. -/
def between (s t : Spot) : List Char := s.rest.take (s.rest.length - t.rest.length)

def run {α : Type} : Regex → Matcher α
  | .empty, s, c, k => k s c
  | .one cls, s, c, k =>
      match s.rest with
      | [] => none
      | ch :: rest => if cls.matches ch then k ⟨some ch, rest⟩ c else none
  | .anchor a, s, c, k => if anchorHolds a s then k s c else none
  | .group i r, s, c, k => r.run s c fun t c => k t ((i, between s t) :: c)
  | .seq a b, s, c, k => a.run s c fun s c => b.run s c k
  | .alt a b, s, c, k =>
      match a.run s c k with
      | some r => some r
      | none => b.run s c k
  | .repeated r least (some most) greedy, s, c, k =>
      exactly r.run least s c fun s c => atMost r.run greedy (most - least) s c k
  | .repeated r 0 none greedy, s, c, k =>
      prefer greedy (fun _ => onceOrMore r.run greedy s c k) fun _ => k s c
  | .repeated r (n + 1) none greedy, s, c, k =>
      exactly r.run n s c fun s c => onceOrMore r.run greedy s c k

/-- Captures of the leftmost match from a place on. -/
def searchFrom (r : Regex) (previous : Option Char) : List Char → Option Captures
  | [] => r.run ⟨previous, []⟩ [] fun _ c => some c
  | ch :: rest =>
      match r.run ⟨previous, ch :: rest⟩ [] fun _ c => some c with
      | some c => some c
      | none => r.searchFrom (some ch) rest

/-- The text that a group captured in the leftmost match; nothing if the group took no part. -/
def capture? (r : Regex) (index : Nat) (text : List Char) : Option (List Char) :=
  match r.searchFrom none text with
  | none => none
  | some c => (c.find? fun e => e.1 == index).map (·.2)

end Regex

end NotebookKernel
