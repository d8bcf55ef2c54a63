import Quillframe.Table
import Quillframe.Ranking
import Quillframe.Process
import Quillframe.Tracking
import Quillframe.Execution
import Quillframe.Decisions
import Quillframe.Events
import Quillframe.Semantic
import Quillframe.Columns
import Quillframe.Context
import Quillframe.Review
import Quillframe.Production
import Quillframe.Schema
import Quillframe.Story
import Quillframe.Planning
import Quillframe.Setup
import Quillframe.PlanStore
import Quillframe.PlanRuns
import Quillframe.Stages
import Quillframe.StageLedger
import Quillframe.Runs
import Quillframe.Release
import Quillframe.Revisions
import Quillframe.Cancellation
import Quillframe.Narrative
import Quillframe.Float64
import Quillframe.Projection
import Quillframe.History
import Quillframe.Settlement
import Quillframe.Ledger
import Quillframe.ProjectRuns
import Quillframe.HistoryRuns
import Quillframe.Restore
import Quillframe.Bridge
import Quillframe.BookSetup
import Quillframe.SetupRuns
import Quillframe.Topology
import Quillframe.Archive
import Quillframe.Workspace
import Quillframe.DecisionRuns
import Quillframe.NarrativeRuns
import Quillframe.ReadingOrder
import Quillframe.Growth
import Quillframe.Numbering
import Quillframe.Graph
import Quillframe.StoryRuns
import Quillframe.Extension
import Quillframe.Publication
import Quillframe.ReadingRuns
import Quillframe.ReviewRuns
import Quillframe.Transaction
import Quillframe.Cloud.Formats
import Quillframe.Cloud.CoreNonce
import Quillframe.Cloud.Coordinator
import Quillframe.Cloud.CoordinatorSteps
import Quillframe.Cloud.PointerRuns
import Quillframe.Cloud.Collections
import Quillframe.Cloud.StorageChecks
import Quillframe.Cloud.Uploads
import Quillframe.Cloud.Capacity
import Quillframe.Cloud.Hosting
import Quillframe.Cloud.Sessions
import Quillframe.Cloud.SessionRuns
import Quillframe.Cloud.SessionVault
import Quillframe.Cloud.VaultIndex
import Quillframe.Cloud.VaultOperations
import Quillframe.Cloud.VaultRuns
import Quillframe.Cloud.VaultAlarms
import Quillframe.Windows
import Quillframe.Utf8
import Quillframe.Repair
import Quillframe.RepairPatch
import Quillframe.Heads
import Quillframe.SchemaCheck
import Quillframe.Cloud.CanonicalRoundTrip
import Quillframe.Cloud.CoreProofRoundTrip
import Quillframe.Endpoint
import Quillframe.Packing
import Quillframe.ContextFreezes
import Quillframe.Continuity
import Quillframe.StageBudget
import Quillframe.ReviewReports
import Quillframe.Mutation
import Quillframe.Calls
import Quillframe.Pipeline
import Quillframe.PlanLedger
import Quillframe.WriterPacks
import Quillframe.Fingerprints
import Quillframe.Brackets
import Quillframe.JsonText
import Quillframe.StrictJson
import Quillframe.SurfaceJson
import Quillframe.Blocks
import Quillframe.GraphRuns
import Quillframe.Architecture
import Quillframe.Farthest
import Quillframe.Unions
import Quillframe.Spans
import Quillframe.Excerpts
import Quillframe.JsonPaths
import Quillframe.Prompt
import Quillframe.Lines
import Quillframe.Providers
import Quillframe.Corpus.Progress
import Quillframe.Corpus.Selection
import Quillframe.Corpus.Evidence
import Quillframe.Corpus.Chapters
import Quillframe.Corpus.Units
import Quillframe.Corpus.Scan
import Quillframe.Corpus.ScanRuns
import Quillframe.StringOrder
import Quillframe.ModelServices
import Quillframe.ServiceRuns
import Quillframe.Commits
import Quillframe.Corpus.Packs
import Quillframe.Corpus.Courses
import Quillframe.Corpus.Studies
import Quillframe.Corpus.StudyCourses
import Quillframe.Corpus.StudyRuns
import Quillframe.NativeFiles
import Quillframe.Procedures
import Quillframe.PublicationBuilds
import Quillframe.PublicationRecovery
import Quillframe.PublicationRuns
