import BoardBench.Act
import BoardBench.Adapter
import BoardBench.Adapter.Discovery
import BoardBench.Bootloader.Client
import BoardBench.Bootloader.Command
import BoardBench.Bytes
import BoardBench.CommandLine.Commands
import BoardBench.CommandLine.Completion.Bash
import BoardBench.CommandLine.Completion.Elvish
import BoardBench.CommandLine.Completion.Fish
import BoardBench.CommandLine.Completion.Offers
import BoardBench.CommandLine.Completion.PowerShell
import BoardBench.CommandLine.Completion.Zsh
import BoardBench.CommandLine.Environment
import BoardBench.CommandLine.Grammar
import BoardBench.CommandLine.Help
import BoardBench.CommandLine.Library
import BoardBench.CommandLine.Program
import BoardBench.CommandLine.Reader
import BoardBench.Config.Entries
import BoardBench.Config.Load
import BoardBench.Config.Resolve
import BoardBench.Console.Process
import BoardBench.Console.Serial
import BoardBench.Error
import BoardBench.Failure
import BoardBench.Fault
import BoardBench.Harness.Outline
import BoardBench.Harness.Pipeline
import BoardBench.Harness.Record
import BoardBench.Harness.Test
import BoardBench.Harness.Verdict
import BoardBench.Helper
import BoardBench.Helper.Reader
import BoardBench.Helper.Spec
import BoardBench.Host
import BoardBench.Host.Record
import BoardBench.Image
import BoardBench.Image.Record
import BoardBench.Json.Basic
import BoardBench.Json.Printer
import BoardBench.Json.Reader
import BoardBench.Json.Record
import BoardBench.Libraries
import BoardBench.Machine.Bench
import BoardBench.Machine.Files
import BoardBench.Machine.Operator
import BoardBench.Machine.Processes
import BoardBench.Machine.SerialLines
import BoardBench.Main
import BoardBench.Pattern
import BoardBench.Proofs.Bootloader.Acceptance
import BoardBench.Proofs.Bootloader.Chunking
import BoardBench.Proofs.Bootloader.Dialogue
import BoardBench.Proofs.Bootloader.Erasing
import BoardBench.Proofs.Bootloader.Exiting
import BoardBench.Proofs.Bootloader.Formatting
import BoardBench.Proofs.Bootloader.InStep
import BoardBench.Proofs.Bootloader.Naming
import BoardBench.Proofs.Bootloader.Operation
import BoardBench.Proofs.Bootloader.Recording
import BoardBench.Proofs.Bootloader.Report
import BoardBench.Proofs.Bootloader.ReportedErrors
import BoardBench.Proofs.Bootloader.Saying
import BoardBench.Proofs.Bootloader.Unambiguous
import BoardBench.Proofs.Chronicle
import BoardBench.Proofs.CommandLine.Capabilities
import BoardBench.Proofs.CommandLine.ExitStatus
import BoardBench.Proofs.CommandLine.Opening
import BoardBench.Proofs.Console.Delivery
import BoardBench.Proofs.Console.Readers
import BoardBench.Proofs.Console.Timeouts
import BoardBench.Proofs.Failing
import BoardBench.Proofs.Harness.Course
import BoardBench.Proofs.Harness.Expecting
import BoardBench.Proofs.Harness.Legs
import BoardBench.Proofs.Helper.Dated
import BoardBench.Proofs.Helper.Detection
import BoardBench.Proofs.Helper.InStep
import BoardBench.Proofs.Helper.Life
import BoardBench.Proofs.Helper.Mortal
import BoardBench.Proofs.Helper.Stopping
import BoardBench.Proofs.Journal
import BoardBench.Proofs.Occurrence
import BoardBench.Proofs.Pattern.Earliest
import BoardBench.Proofs.Pattern.InOrder
import BoardBench.Proofs.Pattern.Occurring
import BoardBench.Proofs.Pattern.Split
import BoardBench.Proofs.Programming.Boundaries
import BoardBench.Proofs.Programming.Destination
import BoardBench.Proofs.Programming.FileServer
import BoardBench.Proofs.Programming.InStep
import BoardBench.Proofs.Programming.Passage
import BoardBench.Proofs.Programming.Region
import BoardBench.Proofs.Programming.Script
import BoardBench.Proofs.Programming.Staging
import BoardBench.Proofs.Reboot.Steps
import BoardBench.Proofs.Regex.BlockReport
import BoardBench.Proofs.Regex.Forward
import BoardBench.Proofs.Regex.Leftmost
import BoardBench.Proofs.Regex.Runs
import BoardBench.Proofs.Relates
import BoardBench.Proofs.Runner.Accounting
import BoardBench.Proofs.Runner.Ending
import BoardBench.Proofs.Runner.Escaping
import BoardBench.Proofs.Runner.FailedReboots
import BoardBench.Proofs.Runner.History
import BoardBench.Proofs.Runner.Interruption
import BoardBench.Proofs.Runner.Rebooting
import BoardBench.Proofs.Runner.Tracking
import BoardBench.Proofs.Session.Awaiting
import BoardBench.Proofs.Session.Breaking
import BoardBench.Proofs.Session.Chunking
import BoardBench.Proofs.Session.Clearing
import BoardBench.Proofs.Session.Conservation
import BoardBench.Proofs.Session.Cutting
import BoardBench.Proofs.Session.Delivery
import BoardBench.Proofs.Session.Draining
import BoardBench.Proofs.Session.Ending
import BoardBench.Proofs.Session.Failing
import BoardBench.Proofs.Session.InStep
import BoardBench.Proofs.Session.Logging
import BoardBench.Proofs.Session.Recording
import BoardBench.Proofs.Session.Releasing
import BoardBench.Proofs.Session.Rounds
import BoardBench.Proofs.Session.Stream
import BoardBench.Proofs.Session.Timing
import BoardBench.Proofs.Session.Uses
import BoardBench.Proofs.Sim.Delivery
import BoardBench.Proofs.Sim.Failing
import BoardBench.Proofs.Sim.Script
import BoardBench.Proofs.Sim.Timing
import BoardBench.Proofs.Text.Numeral
import BoardBench.Proofs.Text.Runs
import BoardBench.Proofs.Text.Utf8
import BoardBench.Reboot.Basic
import BoardBench.Reboot.Debugger
import BoardBench.Reboot.Interactive
import BoardBench.Reboot.Lines
import BoardBench.Regex
import BoardBench.Regex.Basic
import BoardBench.Regex.Library
import BoardBench.Regex.Reader
import BoardBench.Regex.Search
import BoardBench.Report.LogFilter
import BoardBench.Report.Screen
import BoardBench.Runner
import BoardBench.Scenario.Answer
import BoardBench.Scenario.HelperSteps
import BoardBench.Scenario.Plans
import BoardBench.Scenario.Scenery
import BoardBench.Scenario.Steps
import BoardBench.Scenario.TransportSteps
import BoardBench.Scenario.Values
import BoardBench.Session
import BoardBench.Session.LogSink
import BoardBench.Sim.Board
import BoardBench.Sim.Child
import BoardBench.Sim.FileTree
import BoardBench.Sim.Libraries
import BoardBench.Sim.Person
import BoardBench.Sim.Shell.Basic
import BoardBench.Sim.Shell.Reader
import BoardBench.Sim.StandIns
import BoardBench.Sim.Transcript
import BoardBench.Sim.Wire
import BoardBench.Sim.World
import BoardBench.Span
import BoardBench.Span.Seconds
import BoardBench.Target
import BoardBench.Target.Config
import BoardBench.Target.Programming
import BoardBench.Text.Category
import BoardBench.Text.Classes
import BoardBench.Text.Folding
import BoardBench.Text.Numeral
import BoardBench.Text.Outline
import BoardBench.Text.Path
import BoardBench.Text.Quoted
import BoardBench.Text.Styled
import BoardBench.Text.Trim
import BoardBench.Text.Utf8
import BoardBench.Toml.Reader
import BoardBench.Toml.Scalar
import BoardBench.Toml.Table
import BoardBench.Transport
