import SpinWait.CommandLine.Session
import SpinWait.Main
import SpinWait.Proofs.Check.RenderedLoop
import SpinWait.Proofs.CommandLine.Ending
import SpinWait.Proofs.Check.CallRun
import SpinWait.Proofs.Check.CommentedLines
import SpinWait.Proofs.Text.Utf8
import SpinWait.Proofs.CommandLine.Stages
import SpinWait.Proofs.Log.NormalText
import SpinWait.Proofs.Check.LayoutIndependence
import SpinWait.Proofs.Check.Course
import SpinWait.Proofs.Check.TraceAgreement
import SpinWait.Proofs.Check.SharedTrace
import SpinWait.Proofs.Check.Surroundings
import SpinWait.Proofs.Log.Edits
import SpinWait.Proofs.Check.EditedMethod
import SpinWait.Proofs.Check.Truncation
import SpinWait.Proofs.Check.Uniqueness
import SpinWait.Proofs.CommandLine.Passing
import SpinWait.Proofs.CommandLine.Printed
import SpinWait.Proofs.Instruction.Spelling
import SpinWait.Proofs.Check.AdditionWord
import SpinWait.Proofs.Check.AdditionText
import SpinWait.Proofs.Log.Comment
import SpinWait.Proofs.Log.Spacing
import SpinWait.Proofs.Log.TokenForm
import SpinWait.Proofs.Log.MethodEnd
import SpinWait.Proofs.Check.Steps
import SpinWait.Proofs.Log.Cells
import SpinWait.Proofs.Text.Order
import SpinWait.Proofs.Trace.Store
import SpinWait.Proofs.Check.Uses
import SpinWait.Proofs.Text.Delimited
import SpinWait.Proofs.Text.Quoted
import SpinWait.Proofs.Trace.Preimage
import SpinWait.Proofs.Expectation.ValueText
import SpinWait.Proofs.CommandLine.Verbose
import SpinWait.Proofs.Fault.Agreement
import SpinWait.Proofs.Log.BackwardWalk
import SpinWait.Proofs.Log.Mentions
import SpinWait.Proofs.Trace.Entries
