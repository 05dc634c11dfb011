import NotebookKernel.Main
import NotebookKernel.Tooling.Scripted
import NotebookKernel.Proofs.Execution
import NotebookKernel.Proofs.Finishing
import NotebookKernel.Proofs.Aftermath
import NotebookKernel.Proofs.Replies
import NotebookKernel.Proofs.Resplitting
import NotebookKernel.Proofs.Reset
import NotebookKernel.Proofs.Renewal
import NotebookKernel.Proofs.Drafts
import NotebookKernel.Proofs.RoundTrip
import NotebookKernel.Proofs.SetupCell
import NotebookKernel.Proofs.Counting
import NotebookKernel.Proofs.Correlation
import NotebookKernel.Proofs.Delivery
import NotebookKernel.Proofs.Replacement
import NotebookKernel.Proofs.Conduct
import NotebookKernel.Proofs.Contents
import NotebookKernel.Proofs.Deadlock
import NotebookKernel.Proofs.Operation
import NotebookKernel.Proofs.Teardown
import NotebookKernel.Proofs.CellLog
import NotebookKernel.Proofs.TokenSpans
import NotebookKernel.Proofs.Substitution
import NotebookKernel.Proofs.Confinement
import NotebookKernel.Proofs.Questions
import NotebookKernel.Proofs.Binding
import NotebookKernel.Proofs.Agreement
import NotebookKernel.Proofs.Sources
import NotebookKernel.Proofs.Slicing
import NotebookKernel.Proofs.Inspection
import NotebookKernel.Proofs.Descriptors
