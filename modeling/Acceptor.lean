import Acceptor.Text.Alphanumeric
import Acceptor.Text.Blank
import Acceptor.Text.Cased
import Acceptor.Text.Csv
import Acceptor.Text.Hexadecimal
import Acceptor.Text.Newline
import Acceptor.Text.Items
import Acceptor.Text.Lowercase
import Acceptor.Text.Numeral
import Acceptor.Text.Printable
import Acceptor.Text.Quoted
import Acceptor.Text.Utf8
import Acceptor.Text.Utf8.Fault
import Acceptor.Path
import Acceptor.Json.Basic
import Acceptor.Json.Printer
import Acceptor.Json.Reader
import Acceptor.Kind
import Acceptor.OrderedMap
import Acceptor.Automaton.Table
import Acceptor.Automaton.Basic
import Acceptor.Automaton.Verdict
import Acceptor.Automaton.Diagram
import Acceptor.Automaton.Run
import Acceptor.Settings
import Acceptor.Definition.Draft
import Acceptor.Definition.Line
import Acceptor.Definition.Malformed
import Acceptor.Issue
import Acceptor.Validation
import Acceptor.Definition.Grid
import Acceptor.Definition.Keyword
import Acceptor.Definition.Reader
import Acceptor.Definition
import Acceptor.Definition.Grid.Printer
import Acceptor.Definition.Keyword.Printer
import Acceptor.Report.Basic
import Acceptor.Report.Frame
import Acceptor.Report.Record
import Acceptor.Report.Summary
import Acceptor.Batch
import Acceptor.Batch.Pool
import Acceptor.Files.Tree
import Acceptor.Failure
import Acceptor.Files.Read
import Acceptor.Files.Write
import Acceptor.Notice
import Acceptor.Formula.Command
import Acceptor.Formula.Fault
import Acceptor.Formula.Names
import Acceptor.Formula.Reading
import Acceptor.Formula.Grammar
import Acceptor.Formula.Title
import Acceptor.Libraries
import Acceptor.Libraries.Plain
import Acceptor.Session
import Acceptor.CommandLine.Arguments
import Acceptor.CommandLine.Invocation
import Acceptor.CommandLine.Run
import Acceptor.Main
import Acceptor.Proofs.Result
import Acceptor.Proofs.Distinct
import Acceptor.Proofs.Text.Csv
import Acceptor.Proofs.Text.Pieces
import Acceptor.Proofs.Text.Items
import Acceptor.Proofs.Text.Quoted
import Acceptor.Proofs.Text.Rows
import Acceptor.Proofs.Text.Spacing
import Acceptor.Proofs.Text.Utf8
import Acceptor.Proofs.Text.WellFormed
import Acceptor.Proofs.Path
import Acceptor.Proofs.Path.Verdict
import Acceptor.Proofs.Json.Numbers
import Acceptor.Proofs.Json.Printed
import Acceptor.Proofs.Json.Strings
import Acceptor.Proofs.Json.RoundTrip
import Acceptor.Proofs.Automaton.Build
import Acceptor.Proofs.Automaton.Numbers
import Acceptor.Proofs.Automaton.Transitions
import Acceptor.Proofs.Automaton.Run
import Acceptor.Proofs.Automaton.Concatenation
import Acceptor.Proofs.Automaton.Diagram
import Acceptor.Proofs.Automaton.Words
import Acceptor.Proofs.Automaton.Stops
import Acceptor.Proofs.Automaton.Drawing
import Acceptor.Proofs.Automaton.Missing
import Acceptor.Proofs.Automaton.Faithful
import Acceptor.Proofs.Automaton.Renaming
import Acceptor.Proofs.Validation
import Acceptor.Proofs.Validation.Violation
import Acceptor.Proofs.Validation.Findings
import Acceptor.Proofs.Validation.Judgement
import Acceptor.Proofs.Validation.Reached
import Acceptor.Proofs.Definition.Descendants
import Acceptor.Proofs.Definition.Describes
import Acceptor.Proofs.Definition.Lines
import Acceptor.Proofs.Definition.Grid.Reader
import Acceptor.Proofs.Definition.Keyword.Reader
import Acceptor.Proofs.Definition.Orderly
import Acceptor.Proofs.Definition.Unreachable
import Acceptor.Proofs.Definition.DeadEnds
import Acceptor.Proofs.Definition.Rows
import Acceptor.Proofs.Definition.FirstFault
import Acceptor.Proofs.Definition.Frozen
import Acceptor.Proofs.Definition.Grid.Printed
import Acceptor.Proofs.Definition.Grid.RoundTrip
import Acceptor.Proofs.Definition.Grid.WellFormed
import Acceptor.Proofs.Definition.Keyword.Collected
import Acceptor.Proofs.Definition.Keyword.Grammar
import Acceptor.Proofs.Definition.Keyword.Printed
import Acceptor.Proofs.Definition.Rearranged
import Acceptor.Proofs.Definition.Keyword.Rearranged
import Acceptor.Proofs.Definition.Keyword.RoundTrip
import Acceptor.Proofs.Definition.Renumbered
import Acceptor.Proofs.Definition.Layout
import Acceptor.Proofs.Definition.Outcome
import Acceptor.Proofs.Definition.Refusal
import Acceptor.Proofs.Definition.Switches
import Acceptor.Proofs.Batch.Pool
import Acceptor.Proofs.Batch.Run
import Acceptor.Proofs.Batch.Returned
import Acceptor.Proofs.Files.Tree
import Acceptor.Proofs.Files.Places
import Acceptor.Proofs.Files.Input
import Acceptor.Proofs.Files.Bytes
import Acceptor.Proofs.Files.Lines
import Acceptor.Proofs.Report.Record
import Acceptor.Proofs.Report.Tally
import Acceptor.Proofs.Report.Complete
import Acceptor.Proofs.Report.Agreement
import Acceptor.Proofs.Report.Problems
import Acceptor.Proofs.Report.Canonical
import Acceptor.Proofs.Report.Output
import Acceptor.Proofs.Report.RoundTrip
import Acceptor.Proofs.Report.Table
import Acceptor.Proofs.Report.Visits
import Acceptor.Proofs.Libraries
import Acceptor.Proofs.Session.History
import Acceptor.Proofs.Session.Runs
import Acceptor.Proofs.Session.Slots
import Acceptor.Proofs.Session.Saved
import Acceptor.Proofs.Session.Saving
import Acceptor.Proofs.CommandLine.Arguments
import Acceptor.Proofs.CommandLine.Transcript
import Acceptor.Proofs.CommandLine.Results
import Acceptor.Proofs.CommandLine.Exports
import Acceptor.Proofs.CommandLine.Run
import Acceptor.Proofs.CommandLine.Story
import Acceptor.Proofs.CommandLine.Failures
import Acceptor.Proofs.CommandLine.Endings
import Acceptor.Proofs.CommandLine.Judgement
import Acceptor.Proofs.CommandLine.Legible
