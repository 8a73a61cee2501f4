import StoryAtlas.Cli.Options
import StoryAtlas.Cli.Run
import StoryAtlas.Config.Basic
import StoryAtlas.Config.Load
import StoryAtlas.Config.Setting
import StoryAtlas.Disk.Change
import StoryAtlas.Disk.Fault
import StoryAtlas.Disk.Lookup
import StoryAtlas.Disk.Node
import StoryAtlas.Disk.Resolve
import StoryAtlas.Glob
import StoryAtlas.Index.Basic
import StoryAtlas.Index.Build
import StoryAtlas.Index.Discovery
import StoryAtlas.Index.Divert
import StoryAtlas.Index.Scope
import StoryAtlas.Index.Source
import StoryAtlas.Json.Basic
import StoryAtlas.Json.Limits
import StoryAtlas.Json.Raw
import StoryAtlas.Json.Reader
import StoryAtlas.Json.Writer
import StoryAtlas.Log.Journal
import StoryAtlas.Log.Metadata
import StoryAtlas.Log.Record
import StoryAtlas.Main
import StoryAtlas.Number.Binary64
import StoryAtlas.Number.Shortest
import StoryAtlas.Number.Whole
import StoryAtlas.Path
import StoryAtlas.Proofs.ArgumentDescriptions
import StoryAtlas.Proofs.BuildReports
import StoryAtlas.Proofs.CalendarDates
import StoryAtlas.Proofs.CanonicalKeys
import StoryAtlas.Proofs.CanonicalTexts
import StoryAtlas.Proofs.Confinement
import StoryAtlas.Proofs.DefinitionLookup
import StoryAtlas.Proofs.DiskNames
import StoryAtlas.Proofs.DivertArrows
import StoryAtlas.Proofs.EligibleFiles
import StoryAtlas.Proofs.EnclosingRange
import StoryAtlas.Proofs.FileAppends
import StoryAtlas.Proofs.FileSearch
import StoryAtlas.Proofs.FloatTexts
import StoryAtlas.Proofs.GrownTrees
import StoryAtlas.Proofs.HandledRequests
import StoryAtlas.Proofs.HeaderBlocks
import StoryAtlas.Proofs.HiddenTexts
import StoryAtlas.Proofs.IndexHistory
import StoryAtlas.Proofs.IndexRuns
import StoryAtlas.Proofs.JoinedTexts
import StoryAtlas.Proofs.JournalLines
import StoryAtlas.Proofs.JsonScalars
import StoryAtlas.Proofs.JsonTexts
import StoryAtlas.Proofs.KeysBelowRoot
import StoryAtlas.Proofs.KeywordTargets
import StoryAtlas.Proofs.LineEndings
import StoryAtlas.Proofs.LineGrammar
import StoryAtlas.Proofs.LineInsertions
import StoryAtlas.Proofs.LinkResolution
import StoryAtlas.Proofs.LogReads
import StoryAtlas.Proofs.LogWrites
import StoryAtlas.Proofs.LoopFreeDisks
import StoryAtlas.Proofs.LowerCase
import StoryAtlas.Proofs.MergedSettings
import StoryAtlas.Proofs.NearestHeaders
import StoryAtlas.Proofs.OfferedNames
import StoryAtlas.Proofs.OutlineReading
import StoryAtlas.Proofs.OverlongPaths
import StoryAtlas.Proofs.PathSpelling
import StoryAtlas.Proofs.PayloadIds
import StoryAtlas.Proofs.PlainWalks
import StoryAtlas.Proofs.ProperTrees
import StoryAtlas.Proofs.PrunedNames
import StoryAtlas.Proofs.RangePartitions
import StoryAtlas.Proofs.RangeTiling
import StoryAtlas.Proofs.RankedLinks
import StoryAtlas.Proofs.ReadBounds
import StoryAtlas.Proofs.ReadyServers
import StoryAtlas.Proofs.RefusedRequests
import StoryAtlas.Proofs.ReplyTexts
import StoryAtlas.Proofs.RequestFrame
import StoryAtlas.Proofs.RequestIds
import StoryAtlas.Proofs.SavedFiles
import StoryAtlas.Proofs.ScopeFrame
import StoryAtlas.Proofs.ScopePreorder
import StoryAtlas.Proofs.ServedLines
import StoryAtlas.Proofs.ServerRuns
import StoryAtlas.Proofs.ShownPaths
import StoryAtlas.Proofs.StructuralLines
import StoryAtlas.Proofs.TargetAddresses
import StoryAtlas.Proofs.TargetRuns
import StoryAtlas.Proofs.TidyJson
import StoryAtlas.Proofs.TimestampOrder
import StoryAtlas.Proofs.TrailingBlanks
import StoryAtlas.Proofs.TrimmedTexts
import StoryAtlas.Proofs.TypedReplies
import StoryAtlas.Server.Confine
import StoryAtlas.Server.Dispatch
import StoryAtlas.Server.Reply
import StoryAtlas.Server.Request
import StoryAtlas.Server.Session
import StoryAtlas.Server.Tool
import StoryAtlas.Server.Toolbox
import StoryAtlas.Story.Block
import StoryAtlas.Story.Cursor
import StoryAtlas.Story.File
import StoryAtlas.Story.Line
import StoryAtlas.Story.Outline
import StoryAtlas.Story.Partition
import StoryAtlas.Story.Reader
import StoryAtlas.Text.Blank
import StoryAtlas.Text.CaseTable
import StoryAtlas.Text.Digit
import StoryAtlas.Text.Hex
import StoryAtlas.Text.Lines
import StoryAtlas.Text.Lowercase
import StoryAtlas.Text.Printable
import StoryAtlas.Text.Quoted
import StoryAtlas.Text.Split
import StoryAtlas.Timestamp
import StoryAtlas.Toml.Document
import StoryAtlas.Toml.Lexeme
import StoryAtlas.Toml.Reader
