import NotebookKernel.Kernel.Launch
import NotebookKernel.Message.Fresh
import Std.Time.DateTime.Timestamp

/-!
# The program

Reads the files that the command line names, starts a kernel, and then exchanges messages
with a front-end over standard input and output, a message a line. What the kernel notes
goes to standard error. Commands of the profile run on a disk in memory, which holds the
files that were read.
-/

namespace NotebookKernel

/-- Where a text that is read in a directory leads if no link is on the way. -/
def plainPath (here : Path) (text : String) : Path :=
  let start := if text.startsWith "/" then [] else here
  (Disk.names text).foldl (fun p name =>
    if name = "" ∨ name = "." then p
    else if name = ".." then p.dropLast
    else p ++ [name]) start

/-- Does a path lead to anything? -/
def isThere (text : String) : IO Bool :=
  try
    discard (IO.FS.realPath text)
    return true
  catch _ => return false

/-- Copy what a path leads to: a file that can be read, or else a directory. -/
def copyFrom (here : Path) (disk : Disk) (text : String) : IO Disk := do
  let path := plainPath here text
  if ← isThere text then
    try
      let content ← IO.FS.readBinFile text
      return (disk.makeDirectory path.dropLast).put path (.file content.toList)
    catch _ => return disk.makeDirectory path
  else return disk.makeDirectory path.dropLast

/-- What surrounds a launch. -/
def surroundings (o : LaunchOptions) : IO LaunchOptions.Surroundings := do
  let here := plainPath [] (toString (← IO.currentDir))
  let disk ← copyFrom here (Disk.empty.makeDirectory here) o.connectionFile
  let disk ← o.profile.toList.foldlM (copyFrom here) disk
  let disk ← copyFrom here disk o.workingDir
  let disposeTimeout ← IO.getEnv "NBK_DISPOSE_TIMEOUT_MS"
  let linger ← IO.getEnv "NBK_SHUTDOWN_LINGER_MS"
  return ⟨disk, here, disposeTimeout, linger, []⟩

/-- Stamps for the messages that answer one line. -/
def drawStamps : IO (Nat → Stamp) := do
  let now ← Std.Time.Timestamp.now
  let random ← IO.getRandomBytes 1024
  return Stamp.atMoment (now.toNanosecondsSinceUnixEpoch.val.toNat / 1000) random.toList

def writeNotes (notes : List Note) : IO Unit := notes.forM fun n => IO.eprintln n.text

/-- Obey lines until the kernel ends. The end of the input ends it too. -/
partial def serve (kernel : ConnectedKernel Workshop) : IO Unit := do
  let line ← (← IO.getStdin).getLine
  let directive := if line = "" then some .terminate else Directive.parse? line
  match directive with
  | none => serve kernel
  | some directive =>
      let stamps ← drawStamps
      let stamped := kernel.stamped
      let (kernel, lines, notes) :=
        { kernel with stamps := fun n => stamps (n - stamped) }.obey directive
      writeNotes notes
      lines.forM IO.println
      (← IO.getStdout).flush
      if !kernel.isAskedToExit then serve kernel

/-- Launch a kernel and serve until it ends. -/
def launch (o : LaunchOptions) : IO UInt32 := do
  let s ← surroundings o
  let started : Except Report (ConnectedKernel Workshop) := match o.plan s with
    | .error report => .error report
    | .ok plan => plan.start s (Stamp.atMoment 0 [])
  match started with
  | .error report =>
      IO.eprintln report.text
      return 1
  | .ok kernel =>
      writeNotes kernel.startNotes
      serve kernel
      return 0

end NotebookKernel

def main (args : List String) : IO UInt32 := do
  match NotebookKernel.Invocation.ofArguments args with
  | .launch o => NotebookKernel.launch o
  | .version =>
      IO.println NotebookKernel.versionLine
      return 0
  | .help =>
      IO.println NotebookKernel.usage
      return 0
  | .misuse =>
      IO.eprintln NotebookKernel.usage
      return 2
