import RunControl.Breakpoints.Entry
import RunControl.Command
import RunControl.Value.Entry
import RunControl.Json.Reader
import RunControl.Json.Number
import RunControl.Fault.Translation
import RunControl.Result
import RunControl.Inspection
import RunControl.Observers
import RunControl.Control
import RunControl.System.Step
import RunControl.Demo
import RunControl.Error
import RunControl.Rehearsal.Session
import RunControl.FileTree
import RunControl.Wire
import RunControl.Config
import RunControl.Wire.Reading
import RunControl.Toml.Reader
import RunControl.Config.Lookup
import RunControl.Text.Alphanumeric
import RunControl.Pattern.Reader
import RunControl.Pool
import RunControl.CommandLine.Help
import RunControl.Application
import RunControl.Main
import RunControl.Proofs.SoleWorker
import RunControl.Proofs.Pause
import RunControl.Proofs.Read
import RunControl.Proofs.Wakeup
import RunControl.Proofs.Interrupt
import RunControl.Proofs.Isolation
import RunControl.Proofs.Renewal
import RunControl.Proofs.Transparency
import RunControl.Proofs.Inspection
import RunControl.Proofs.LastValue
import RunControl.Proofs.Chapter
import RunControl.Proofs.LifeCycle
import RunControl.Proofs.Judgement
import RunControl.Proofs.Attendance
import RunControl.Proofs.Grammar
import RunControl.Proofs.Stepper
import RunControl.Proofs.Itinerary
import RunControl.Proofs.Interchange
import RunControl.Proofs.Greedy
import RunControl.Proofs.Fate
import RunControl.Proofs.Standing
import RunControl.Proofs.Proceeding
import RunControl.Proofs.Commanding
import RunControl.Proofs.Exchange
import RunControl.Proofs.Unstuck
import RunControl.Proofs.Uncontested
import RunControl.Proofs.Documents
import RunControl.Proofs.Schema
import RunControl.Proofs.Bilingual
import RunControl.Proofs.Decoding
import RunControl.Proofs.Registry
import RunControl.Proofs.Succession
import RunControl.Proofs.Flags
import RunControl.Proofs.Entry
import RunControl.Proofs.LineLists
import RunControl.Proofs.Nearest
import RunControl.Proofs.Conversion
import RunControl.Proofs.Recital
import RunControl.Proofs.Operands
import RunControl.Proofs.Panicless
import RunControl.Proofs.Arithmetic
