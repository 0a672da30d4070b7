import BurstProfiler.Command
import BurstProfiler.Command.Outcome
import BurstProfiler.Command.Record
import BurstProfiler.CommandLine.Grammar
import BurstProfiler.CommandLine.Request
import BurstProfiler.Duration
import BurstProfiler.Duration.Decimal
import BurstProfiler.Duration.Reader
import BurstProfiler.Duration.Spans
import BurstProfiler.Duration.TimeUnit
import BurstProfiler.Elf.BuildId
import BurstProfiler.Elf.Header
import BurstProfiler.Elf.Image
import BurstProfiler.Elf.Note
import BurstProfiler.Error
import BurstProfiler.Frame
import BurstProfiler.Instant
import BurstProfiler.Main
import BurstProfiler.Memory.FrameReader
import BurstProfiler.Memory.Listing
import BurstProfiler.Memory.Maps
import BurstProfiler.Memory.Resolver
import BurstProfiler.Module
import BurstProfiler.ModuleTable
import BurstProfiler.Number.Binary64
import BurstProfiler.Number.Decimal
import BurstProfiler.Number.Integer
import BurstProfiler.Params
import BurstProfiler.Path
import BurstProfiler.Profile
import BurstProfiler.Profile.Builder
import BurstProfiler.Profiler
import BurstProfiler.Profiler.Company
import BurstProfiler.Proofs.CommandLine.Durations
import BurstProfiler.Proofs.Description
import BurstProfiler.Proofs.Duration.Amounts
import BurstProfiler.Proofs.Duration.Spelling
import BurstProfiler.Proofs.Handshake.Captures
import BurstProfiler.Proofs.Handshake.Ownership
import BurstProfiler.Proofs.Handshake.Scenes
import BurstProfiler.Proofs.Handshake.Transitions
import BurstProfiler.Proofs.Interning
import BurstProfiler.Proofs.LossyPaths
import BurstProfiler.Proofs.Memory.FrameModules
import BurstProfiler.Proofs.Memory.ListedMaps
import BurstProfiler.Proofs.Memory.ModuleIdentity
import BurstProfiler.Proofs.Memory.Rereading
import BurstProfiler.Proofs.Memory.Resolving
import BurstProfiler.Proofs.Numerals
import BurstProfiler.Proofs.Places
import BurstProfiler.Proofs.Profiler.Lifecycle
import BurstProfiler.Proofs.Profiler.LoneRun
import BurstProfiler.Proofs.Profiler.Outcome
import BurstProfiler.Proofs.Profiler.ReportedState
import BurstProfiler.Proofs.Profiler.SharedStore
import BurstProfiler.Proofs.Profiler.Standing
import BurstProfiler.Proofs.Profiler.TerminalState
import BurstProfiler.Proofs.Profiler.Transitions
import BurstProfiler.Proofs.Recording.Atomicity
import BurstProfiler.Proofs.Recording.CacheTransparency
import BurstProfiler.Proofs.Recording.HotLeaves
import BurstProfiler.Proofs.Recording.Loading
import BurstProfiler.Proofs.Recording.ModuleRows
import BurstProfiler.Proofs.Recording.Ranking
import BurstProfiler.Proofs.Recording.RealOffsets
import BurstProfiler.Proofs.Recording.RoundTrip
import BurstProfiler.Proofs.Recording.Totals
import BurstProfiler.Proofs.Recording.Writing
import BurstProfiler.Proofs.Recording.WrittenRun
import BurstProfiler.Proofs.Report.CommaSeparated
import BurstProfiler.Proofs.Report.TabSeparated
import BurstProfiler.Proofs.Schedule.Accounting
import BurstProfiler.Proofs.Schedule.Actions
import BurstProfiler.Proofs.Schedule.Clocked
import BurstProfiler.Proofs.Schedule.Completion
import BurstProfiler.Proofs.Schedule.CutOff
import BurstProfiler.Proofs.Schedule.Delivery
import BurstProfiler.Proofs.Schedule.Discipline
import BurstProfiler.Proofs.Schedule.Journal
import BurstProfiler.Proofs.Schedule.NominalTime
import BurstProfiler.Proofs.Schedule.Pace
import BurstProfiler.Proofs.Schedule.References
import BurstProfiler.Proofs.Schedule.Transitions
import BurstProfiler.Proofs.Schedule.Truncation
import BurstProfiler.Proofs.Rounding
import BurstProfiler.Proofs.StackWalk
import BurstProfiler.Proofs.TextBytes
import BurstProfiler.Proofs.Validation
import BurstProfiler.Proofs.Waiting
import BurstProfiler.Proofs.Words
import BurstProfiler.Recording.DatabaseFile
import BurstProfiler.Recording.Edits
import BurstProfiler.Recording.HotFrames
import BurstProfiler.Recording.Loading
import BurstProfiler.Recording.Recorder
import BurstProfiler.Recording.Statements
import BurstProfiler.Recording.Storage
import BurstProfiler.Recording.Schema
import BurstProfiler.Recording.Tables
import BurstProfiler.Rehearsal.Actor
import BurstProfiler.Rehearsal.Script
import BurstProfiler.Rehearsal.Stage
import BurstProfiler.Report.Csv
import BurstProfiler.Report.HotFrames
import BurstProfiler.Report.QueryResult
import BurstProfiler.Report.Table
import BurstProfiler.Schedule.History
import BurstProfiler.Schedule.Progress
import BurstProfiler.Schedule.Run
import BurstProfiler.Schedule.Session
import BurstProfiler.Sink
import BurstProfiler.Stack.Chain
import BurstProfiler.Stack.Handshake
import BurstProfiler.Stack.Region
import BurstProfiler.Stack.Walk
import BurstProfiler.StopSignal
import BurstProfiler.StopSignal.Waiters
import BurstProfiler.Text.Blank
import BurstProfiler.Text.GraphemeExtend
import BurstProfiler.Text.Inspect
import BurstProfiler.Text.Ranges
import BurstProfiler.Text.Unprintable
import BurstProfiler.Text.Utf8
import BurstProfiler.Text.Width
import BurstProfiler.Text.WidthClasses
import BurstProfiler.ThreadId
