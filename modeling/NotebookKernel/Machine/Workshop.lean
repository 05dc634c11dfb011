import NotebookKernel.Machine.Run
import NotebookKernel.Tooling.Command

/-!
# A workshop on the machine

The commands of a profile are run by the machine.
-/

namespace NotebookKernel

def Workshop.new (profile : ToolingProfile) (workingDir : String) (disk : Disk) : Workshop :=
  .newWith Disk.launch profile workingDir disk

end NotebookKernel
