import NotebookKernel.Text.Duration
import NotebookKernel.Cell.Naming
import NotebookKernel.Tooling.Profile

/-!
# Configuration of a kernel

Defaults, the two durations that the environment may override, and what a tooling
profile decides: language, setup cell and naming.
-/

namespace NotebookKernel

structure KernelConfig where
  workingDir : String
  disposeTimeout : Duration
  shutdownLinger : Duration
  capacity : Nat
  naming : ModuleNaming
  setupSource : String
  language : LanguageInfo
  banner : String

namespace KernelConfig

/-- Name and version of this kernel. -/
def implementation : String := "nbk"

def implementationVersion : String := "0.1.0"

def standard : KernelConfig where
  workingDir := "."
  disposeTimeout := .ofMillis 10000
  shutdownLinger := .ofMillis 50
  capacity := 128
  naming := .standard
  setupSource := ToolingProfile.shell.setupSource
  language := ToolingProfile.shell.language
  banner := implementation ++ " " ++ implementationVersion

/-- Milliseconds in the environment: a decimal number of 64 bits, which a plus sign may precede;
blanks around it do not count. -/
def readMillis (raw : String) : Option Duration :=
  let text := (trim raw).toList
  let ds := match text with
    | '+' :: rest => rest
    | text => text
  if ds = [] ∨ ds.any (fun c => !c.isDigit) then none
  else
    let n := ds.foldl (fun n d => 10 * n + (d.toNat - 48)) 0
    if n < UInt64.size then some (.ofMillis n) else none

/-- The defaults for a directory, with the overrides that can be read. -/
def ofEnvironment (workingDir : String) (disposeTimeout linger : Option String) : KernelConfig :=
  let base := { standard with workingDir := workingDir }
  let base := match disposeTimeout.bind readMillis with
    | some d => { base with disposeTimeout := d }
    | none => base
  match linger.bind readMillis with
  | some d => { base with shutdownLinger := d }
  | none => base

/-- The sentence for a pattern that is no expression. -/
def badPattern (pattern : String) : String := "invalid module pattern '" ++ pattern ++ "'"

/-- Adopt a profile. A bad pattern is reported after language and setup have been adopted. -/
def applyProfile (c : KernelConfig) (p : ToolingProfile) : KernelConfig × Except String Unit :=
  let c := { c with language := p.language, setupSource := p.setupSource }
  match p.modulePattern with
  | none => (c, .ok ())
  | some pattern =>
      match ModuleNaming.ofPattern? pattern with
      | some naming => ({ c with naming := naming }, .ok ())
      | none => (c, .error (badPattern pattern))

end KernelConfig

end NotebookKernel
