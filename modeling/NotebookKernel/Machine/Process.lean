import NotebookKernel.Machine.Disk

/-!
# Processes

What is left when a program has run, and what it takes to run one. Which programs there are
and what they do is left to the launcher.
-/

namespace NotebookKernel

/-- How a process ends. -/
inductive Exit where
  | code (n : Nat)
  | signal (n : Nat)
  deriving DecidableEq, Repr

/-- The names of the signals, from the first on. -/
def signalNames : List String :=
  ["HUP", "INT", "QUIT", "ILL", "TRAP", "ABRT", "BUS", "FPE", "KILL", "USR1", "SEGV", "USR2",
    "PIPE", "ALRM", "TERM", "STKFLT", "CHLD", "CONT", "STOP", "TSTP", "TTIN", "TTOU", "URG",
    "XCPU", "XFSZ", "VTALRM", "PROF", "WINCH", "IO", "PWR", "SYS"]

/-- The words for how a process ended. -/
def Exit.describe : Exit → String
  | code n => s!"exit status: {n}"
  | signal n =>
      match n, signalNames[n - 1]? with
      | n, some name => s!"signal: {n} (SIG{name})"
      | n, none => s!"signal: {n}"

/-- What a process leaves behind. -/
structure Ended where
  exit : Exit
  out : Bytes
  err : Bytes
  /-- The milliseconds it took. -/
  elapsed : Nat

/-- How a program is run on a disk: in a directory, under a name, with arguments and nothing to
read. Either it is not started, or it leaves something behind and the disk as it is then. -/
abbrev Launcher :=
  (disk : Disk) → (directory name : String) → (args : List String) →
    Except FileFault (Ended × Disk)

end NotebookKernel
