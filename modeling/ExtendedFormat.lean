import ExtendedFormat.Folder
import ExtendedFormat.Main
import ExtendedFormat.Proofs.Directive.Grammar
import ExtendedFormat.Proofs.Directive.Reading
import ExtendedFormat.Proofs.Directive.Acceptance
import ExtendedFormat.Proofs.Directive.Overlong
import ExtendedFormat.Proofs.Template.Reads
import ExtendedFormat.Proofs.Template.RoundTrip
import ExtendedFormat.Proofs.Number.Bounds
import ExtendedFormat.Proofs.Template.Totality
import ExtendedFormat.Proofs.Directive.Field
import ExtendedFormat.Proofs.Output.Atomicity
import ExtendedFormat.Proofs.Output.Composition
import ExtendedFormat.Proofs.Output.Modes
import ExtendedFormat.Proofs.Output.Dialects
import ExtendedFormat.Proofs.Output.Integers
import ExtendedFormat.Proofs.Directive.Fault
import ExtendedFormat.Proofs.Output.Refusals
import ExtendedFormat.Proofs.Json.Values
import ExtendedFormat.Proofs.Command.Options
import ExtendedFormat.Proofs.Command.Causes
import ExtendedFormat.Proofs.Command.Exit
import ExtendedFormat.Proofs.Sink.Concatenation
import ExtendedFormat.Proofs.Cache.Transparency
import ExtendedFormat.Proofs.Session.Steps
import ExtendedFormat.Proofs.Session.Compiled
import ExtendedFormat.Proofs.Session.Contexts
import ExtendedFormat.Proofs.Session.Reentry
import ExtendedFormat.Proofs.Text.Utf8
import ExtendedFormat.Proofs.Text.Utf16
import ExtendedFormat.Proofs.Output.Text
import ExtendedFormat.Proofs.Output.LastNumber
import ExtendedFormat.Proofs.Argument.Views
import ExtendedFormat.Proofs.Command.Words
import ExtendedFormat.Proofs.Command.Resources
import ExtendedFormat.Proofs.Cache.Queue
import ExtendedFormat.Proofs.Session.Limit
import ExtendedFormat.Proofs.Output.Bits
import ExtendedFormat.Proofs.Session.Results
import ExtendedFormat.Proofs.Output.Comparison
import ExtendedFormat.Proofs.Text.Repair
import ExtendedFormat.Proofs.Output.Filling
import ExtendedFormat.Proofs.Output.Flag
import ExtendedFormat.Proofs.Command.Output
import ExtendedFormat.Proofs.Number.Positional
import ExtendedFormat.Proofs.Number.Grouping
import ExtendedFormat.Proofs.Output.Strings
import ExtendedFormat.Proofs.Output.Units
import ExtendedFormat.Proofs.Directive.Stray
import ExtendedFormat.Proofs.Template.Complaints
import ExtendedFormat.Proofs.Directive.Jobs
import ExtendedFormat.Proofs.Output.Influence
import ExtendedFormat.Proofs.Text.FileText
import ExtendedFormat.Proofs.Json.Arrays
import ExtendedFormat.Proofs.Command.Collect
import ExtendedFormat.Proofs.Output.Explanation
import ExtendedFormat.Proofs.Argument.Requests
