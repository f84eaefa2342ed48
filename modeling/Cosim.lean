import Cosim.Main
import Cosim.Proofs.Retirement.Group
import Cosim.Proofs.Retirement.Segment
import Cosim.Proofs.Retirement.Position
import Cosim.Proofs.Alignment.SegmentWalk
import Cosim.Proofs.Alignment.Assignment
import Cosim.Proofs.CommitLine.Window
import Cosim.Proofs.CommitLine.Grammar
import Cosim.Proofs.CommitLine.RoundTrip
import Cosim.Proofs.Alignment.Agreement
import Cosim.Proofs.Alignment.WrongValue
import Cosim.Proofs.Alignment.EndOfTest
import Cosim.Proofs.Json.Documents
import Cosim.Proofs.Json.Members
import Cosim.Proofs.EventLog.RoundTrip
import Cosim.Proofs.Alignment.PassedOver
import Cosim.Proofs.Alignment.Finality
import Cosim.Proofs.Alignment.Observation
import Cosim.Proofs.Alignment.Skeleton
import Cosim.Proofs.Alignment.BootCode
import Cosim.Proofs.Alignment.Continuation
import Cosim.Proofs.Alignment.Diagnosis
import Cosim.Proofs.JoinedLogs
import Cosim.Proofs.Session
import Cosim.Proofs.Text.Utf8
import Cosim.Proofs.LogFiles
import Cosim.Proofs.Json.LongNumbers
import Cosim.Proofs.LogEntries
import Cosim.Proofs.Text.Damage
import Cosim.Proofs.DamagedLogs
import Cosim.Proofs.MalformedLogs
import Cosim.Proofs.SavedLogs
import Cosim.Proofs.Files.Changes
import Cosim.Proofs.Files.Leftovers
import Cosim.Proofs.Files.Ways
import Cosim.Proofs.Files.Writing
import Cosim.Proofs.Run.Actions
import Cosim.Proofs.Run.Commands
import Cosim.Proofs.Run.TwinRuns
import Cosim.Proofs.Run.Leftovers
import Cosim.Proofs.Run.OwnLogs
import Cosim.Proofs.Run.Restraint
import Cosim.Proofs.Run.Ending
import Cosim.Proofs.EventLog.Decoding
import Cosim.Proofs.EndPatterns.Configured
import Cosim.Proofs.EndPatterns.CommandLine
import Cosim.Proofs.Configuration
import Cosim.Proofs.CommitLine.Words
import Cosim.Proofs.Json.Abandoned
import Cosim.Proofs.ConfigFiles
import Cosim.Proofs.Files.Joining
import Cosim.Proofs.Files.Globbing
import Cosim.Proofs.Files.Ordering
import Cosim.Proofs.Files.Patterns
import Cosim.Proofs.Run.TestPrograms
import Cosim.Proofs.Report.Scalars
import Cosim.Proofs.Report.Margins
import Cosim.Proofs.Report.Outline
import Cosim.Proofs.Report.Documents
import Cosim.Proofs.Run.Accounts
