import SyntaxReport.Command.Execute
import SyntaxReport.Console.State
import SyntaxReport.Main
import SyntaxReport.Tree.Node
import SyntaxReport.Proofs.Layout.Serialized
import SyntaxReport.Proofs.Layout.Lossless
import SyntaxReport.Proofs.FileSystem.Directories
import SyntaxReport.Proofs.Dump.Failure
import SyntaxReport.Proofs.Dump.Source
import SyntaxReport.Proofs.Layout.Restored
import SyntaxReport.Proofs.Dump.InMemory
import SyntaxReport.Proofs.Dump.Frame
import SyntaxReport.Proofs.Console.Strip
import SyntaxReport.Proofs.FileSystem.Lookup
import SyntaxReport.Proofs.Command.Exit
import SyntaxReport.Proofs.Path.Written
import SyntaxReport.Proofs.Report.ReadBack
import SyntaxReport.Proofs.Command.Printing
import SyntaxReport.Proofs.Command.ExitCode
import SyntaxReport.Proofs.Text.Visible
import SyntaxReport.Proofs.Command.Cosmetics
import SyntaxReport.Proofs.Dump.Repeated
import SyntaxReport.Proofs.Report.Independent
import SyntaxReport.Proofs.Console.Contexts
import SyntaxReport.Proofs.Console.Silence
import SyntaxReport.Proofs.Command.Accepted
import SyntaxReport.Proofs.Layout.Unmatched
import SyntaxReport.Proofs.Layout.Positions
import SyntaxReport.Proofs.Layout.Lines
import SyntaxReport.Proofs.Layout.Composed
import SyntaxReport.Proofs.Calendar.Chronology
import SyntaxReport.Proofs.Dump.SourceBytes
import SyntaxReport.Proofs.Path.Stem
import SyntaxReport.Proofs.Report.TakenApart
import SyntaxReport.Proofs.Command.Reported
import SyntaxReport.Proofs.Report.Equality
import SyntaxReport.Proofs.Grammar.Guess
import SyntaxReport.Proofs.Console.Numbering
import SyntaxReport.Proofs.Grammar.Transparent
import SyntaxReport.Proofs.Grammar.UnknownName
