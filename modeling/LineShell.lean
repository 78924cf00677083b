import LineShell.Text.Unprintable
import LineShell.Text.ClusterTables
import LineShell.Text.Blank
import LineShell.Text.Clusters
import LineShell.Text.Fit
import LineShell.Text.Quoted
import LineShell.Text.Utf8
import LineShell.Text.Words
import LineShell.Errno
import LineShell.IoError
import LineShell.Line.Arguments
import LineShell.Log
import LineShell.Settings.Basic
import LineShell.Settings.File
import LineShell.Completion
import LineShell.Environment
import LineShell.Flags
import LineShell.Highlight
import LineShell.WaitStatus
import LineShell.Event
import LineShell.Line.Chunk
import LineShell.Sink
import LineShell.Builtin
import LineShell.Line.Source
import LineShell.Session
import LineShell.Machine.FileTree
import LineShell.Machine.Job
import LineShell.Machine.Tools
import LineShell.Machine.Exec
import LineShell.Machine
import LineShell.Program
import LineShell.Main
import LineShell.Proofs.Decoding
import LineShell.Proofs.Chunks
import LineShell.Proofs.Readings
import LineShell.Proofs.Words
import LineShell.Proofs.Tokens
import LineShell.Proofs.Reservation
import LineShell.Proofs.Commands
import LineShell.Proofs.Rounds
import LineShell.Proofs.InputLines
import LineShell.Proofs.Encoding
import LineShell.Proofs.Entries
import LineShell.Proofs.Assignments
import LineShell.Proofs.WrittenSettings
import LineShell.Proofs.Numerals
import LineShell.Proofs.Courses
import LineShell.Proofs.Continuation
import LineShell.Proofs.EditedLines
import LineShell.Proofs.Stages
import LineShell.Proofs.Breakdowns
import LineShell.Proofs.Pieces
import LineShell.Proofs.Reports
import LineShell.Proofs.FlagItems
import LineShell.Proofs.FlagOrder
import LineShell.Proofs.Directories
import LineShell.Proofs.WaitWords
import LineShell.Proofs.Statuses
import LineShell.Proofs.Conclusions
import LineShell.Proofs.SettingCalls
import LineShell.Proofs.Slices
import LineShell.Proofs.Safety
import LineShell.Proofs.ByteOrder
import LineShell.Proofs.StrictDecoding
import LineShell.Proofs.Trees
import LineShell.Proofs.Candidates
import LineShell.Proofs.Paths
import LineShell.Proofs.FoundCommands
import LineShell.Proofs.SplitModes
import LineShell.Proofs.PaintedLines
import LineShell.Proofs.CutLines
import LineShell.Proofs.FailedPrompts
import LineShell.Proofs.BrokenInput
