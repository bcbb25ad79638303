import CrawlAudit.Binary64.Basic
import CrawlAudit.Binary64.Decimal
import CrawlAudit.Cell.Basic
import CrawlAudit.Cell.Order
import CrawlAudit.Cell.Sum
import CrawlAudit.Command.EnvironmentFile
import CrawlAudit.Command.Program
import CrawlAudit.Command.Workspace
import CrawlAudit.Command.WorkspaceDocument
import CrawlAudit.Configuration
import CrawlAudit.Derivation
import CrawlAudit.Duplicate.Detector
import CrawlAudit.Duplicate.Record
import CrawlAudit.Fault
import CrawlAudit.Filter.Basic
import CrawlAudit.Filter.Reader
import CrawlAudit.Json.Basic
import CrawlAudit.Json.Number
import CrawlAudit.Json.Quoted
import CrawlAudit.Json.Reader
import CrawlAudit.Json.Token
import CrawlAudit.Json.Writer
import CrawlAudit.Main
import CrawlAudit.Order
import CrawlAudit.Outlink.Basic
import CrawlAudit.Outlink.Domain
import CrawlAudit.Outlink.Ranking
import CrawlAudit.Pattern.Basic
import CrawlAudit.Pattern.Brackets
import CrawlAudit.Pattern.CharSet
import CrawlAudit.Pattern.Escape
import CrawlAudit.Pattern.Flags
import CrawlAudit.Pattern.Named
import CrawlAudit.Pattern.Piece
import CrawlAudit.Pattern.Reader
import CrawlAudit.Pattern.Search
import CrawlAudit.Query.Catalog
import CrawlAudit.Query.Group
import CrawlAudit.Query.Hierarchy
import CrawlAudit.Query.Metrics
import CrawlAudit.Query.Nesting
import CrawlAudit.Query.Settings
import CrawlAudit.Query.Suggest
import CrawlAudit.Resolver
import CrawlAudit.Sink.Basic
import CrawlAudit.Sink.LineFiles
import CrawlAudit.Sink.Record
import CrawlAudit.Sink.RecordTables
import CrawlAudit.Sorted
import CrawlAudit.Store.Database
import CrawlAudit.Store.Directory
import CrawlAudit.Store.Table
import CrawlAudit.Stream.Join
import CrawlAudit.Stream.Reading
import CrawlAudit.Stream.Schema
import CrawlAudit.Text.Blank
import CrawlAudit.Text.CaseFolding
import CrawlAudit.Text.Category
import CrawlAudit.Text.CodeTable
import CrawlAudit.Text.Composition
import CrawlAudit.Text.Decimal
import CrawlAudit.Text.Hexadecimal
import CrawlAudit.Text.Joining
import CrawlAudit.Text.Line
import CrawlAudit.Text.Lowercase
import CrawlAudit.Text.Property
import CrawlAudit.Text.Script
import CrawlAudit.Text.Utf8
import CrawlAudit.Text.WritingClass
import CrawlAudit.Url.DomainMapping
import CrawlAudit.Url.DomainName
import CrawlAudit.Url.Host
import CrawlAudit.Url.Ipv4
import CrawlAudit.Url.Punycode
import CrawlAudit.Proofs.OrderLaws
import CrawlAudit.Proofs.CellOrder
import CrawlAudit.Proofs.Classes
import CrawlAudit.Proofs.MergeJoin
import CrawlAudit.Proofs.Grouping
import CrawlAudit.Proofs.Distinct
import CrawlAudit.Proofs.SortedMap
import CrawlAudit.Proofs.DetectorRecords
import CrawlAudit.Proofs.DuplicateClasses
import CrawlAudit.Proofs.DomainRanking
import CrawlAudit.Proofs.HierarchyReduction
import CrawlAudit.Proofs.PatternKeys
import CrawlAudit.Proofs.CorruptShards
import CrawlAudit.Proofs.RecordRows
import CrawlAudit.Proofs.TableSessions
import CrawlAudit.Proofs.LineSessions
import CrawlAudit.Proofs.StoredDerivation
import CrawlAudit.Proofs.ShardCuts
import CrawlAudit.Proofs.SettingsFilter
import CrawlAudit.Proofs.QueryRuns
import CrawlAudit.Proofs.IntegerSums
import CrawlAudit.Proofs.NestedPaths
import CrawlAudit.Proofs.GroupTotals
import CrawlAudit.Proofs.IntegerDoubles
import CrawlAudit.Proofs.IntegerRounding
import CrawlAudit.Proofs.PlainCells
import CrawlAudit.Proofs.FilterReading
import CrawlAudit.Proofs.DrillDown
import CrawlAudit.Proofs.RowOrder
import CrawlAudit.Proofs.DomainLevels
import CrawlAudit.Proofs.FilterTrees
import CrawlAudit.Proofs.UnnamedColumns
import CrawlAudit.Proofs.OrderedDocuments
import CrawlAudit.Proofs.PredicateNames
import CrawlAudit.Proofs.FilterGrammar
import CrawlAudit.Proofs.ComparedCells
import CrawlAudit.Proofs.IntegerTests
import CrawlAudit.Proofs.FilterRewrites
import CrawlAudit.Proofs.ShownKeys
import CrawlAudit.Proofs.KeyFilters
import CrawlAudit.Proofs.MovedChildren
import CrawlAudit.Proofs.ChildLevels
import CrawlAudit.Proofs.RankedPatterns
import CrawlAudit.Proofs.NestedLeaves
import CrawlAudit.Proofs.RunningSums
import CrawlAudit.Proofs.DoubleSums
import CrawlAudit.Proofs.GrowingTotals
import CrawlAudit.Proofs.ShownLists
import CrawlAudit.Proofs.SampledLinks
import CrawlAudit.Proofs.ObservedClasses
import CrawlAudit.Proofs.PulledRows
import CrawlAudit.Proofs.UnorderedJoins
import CrawlAudit.Proofs.WrittenDocuments
import CrawlAudit.Proofs.RecordLines
import CrawlAudit.Proofs.StoredDuplicates
import CrawlAudit.Proofs.TotalSorting
import CrawlAudit.Proofs.CheckedFields
import CrawlAudit.Proofs.ResolvedSources
import CrawlAudit.Proofs.ListShorthand
import CrawlAudit.Proofs.DetectorMaps
import CrawlAudit.Proofs.WrittenRows
import CrawlAudit.Proofs.RegistrableDomains
import CrawlAudit.Proofs.EchoedSettings
import CrawlAudit.Proofs.ExpandedFields
import CrawlAudit.Proofs.ShownGroups
