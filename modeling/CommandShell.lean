import CommandShell.CommandLine
import CommandShell.Console
import CommandShell.Host
import CommandShell.Main
import CommandShell.Proofs.CommandLine.Grammar
import CommandShell.Proofs.Session.Course
import CommandShell.Proofs.Session.Order
import CommandShell.Proofs.Session.Cancellation
import CommandShell.Proofs.Session.ReadFailure
import CommandShell.Proofs.Shell
import CommandShell.Proofs.Registry.Loading
import CommandShell.Proofs.Session.FailureReports
import CommandShell.Proofs.Program.Escapes
import CommandShell.Proofs.Program.NoColor
import CommandShell.Proofs.Config.Loading
import CommandShell.Proofs.Console.LineFeed
import CommandShell.Proofs.Session.Farewell
import CommandShell.Proofs.Program.Dispatch
import CommandShell.Proofs.Text
import CommandShell.Proofs.Session.Prompts
import CommandShell.Proofs.Session.Ending
import CommandShell.Proofs.Program.Outcome
import CommandShell.Proofs.Session.Reach
import CommandShell.Proofs.Session.BlankLines
import CommandShell.Proofs.Session.Rendering
import CommandShell.Proofs.Session.AuditTrail
import CommandShell.Proofs.CommandLine.Quoting
import CommandShell.Proofs.CommandLine.Scanner
import CommandShell.Proofs.Config.Sections
import CommandShell.Proofs.Table
import CommandShell.Proofs.Registry.Trying
import CommandShell.Proofs.Registry.Accounting
import CommandShell.Proofs.Host
import CommandShell.Proofs.Registry.Reordering
import CommandShell.Proofs.Console.Coloring
