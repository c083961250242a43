import Concordance.Command.Options
import Concordance.Command.Run
import Concordance.Command.Session
import Concordance.Command.Stages
import Concordance.Crawl.Budget
import Concordance.Crawl.Run
import Concordance.Crawl.Site
import Concordance.Crawl.Web
import Concordance.Files.Build
import Concordance.Files.TextFiles
import Concordance.Files.Tree
import Concordance.Index.Basic
import Concordance.Index.Edit
import Concordance.Index.Report
import Concordance.Index.Search
import Concordance.Json.Document
import Concordance.Lock.Basic
import Concordance.Lock.Guarded
import Concordance.Main
import Concordance.Markup.Builder
import Concordance.Markup.CharRef
import Concordance.Markup.Draft
import Concordance.Markup.Names
import Concordance.Markup.Page
import Concordance.Markup.Reading
import Concordance.Markup.ReferenceTable
import Concordance.Markup.Strip
import Concordance.Markup.Token
import Concordance.Pool.Basic
import Concordance.Pool.Client
import Concordance.Pool.Errand
import Concordance.Pool.Schedule
import Concordance.Pool.Work
import Concordance.Proofs.AnsweredLines
import Concordance.Proofs.ClaimedSearches
import Concordance.Proofs.ClientRun
import Concordance.Proofs.ClientStep
import Concordance.Proofs.CrawlOutcome
import Concordance.Proofs.IndexRecords
import Concordance.Proofs.LockRoles
import Concordance.Proofs.LookupStep
import Concordance.Proofs.PoolAccounts
import Concordance.Proofs.PoolLedger
import Concordance.Proofs.PoolReady
import Concordance.Proofs.PoolStep
import Concordance.Proofs.PoolWakeups
import Concordance.Proofs.PooledAnswers
import Concordance.Proofs.PooledBuild
import Concordance.Proofs.QueryKey
import Concordance.Proofs.SearchRegister
import Concordance.Proofs.SessionOutcome
import Concordance.Proofs.SortedMerge
import Concordance.Proofs.StemWords
import Concordance.Proofs.ThreadedWords
import Concordance.Proofs.VisitStep
import Concordance.Query.Answers
import Concordance.Query.Cache
import Concordance.Query.Inline
import Concordance.Query.Line
import Concordance.Query.Lookup
import Concordance.Query.Pooled
import Concordance.Query.Probe
import Concordance.Query.Room
import Concordance.Rank.Hit
import Concordance.Rank.Quotient
import Concordance.Service.Origins
import Concordance.Service.Parameters
import Concordance.Service.Server
import Concordance.Service.Target
import Concordance.SortedMap
import Concordance.Stem.English
import Concordance.Stem.Shape
import Concordance.Stem.Suffix
import Concordance.Term
import Concordance.Text.Blank
import Concordance.Text.Canonical
import Concordance.Text.CaseFold
import Concordance.Text.Cased
import Concordance.Text.CombiningClass
import Concordance.Text.Composition
import Concordance.Text.Decomposition
import Concordance.Text.Encoding
import Concordance.Text.Letter
import Concordance.Text.Lines
import Concordance.Text.LowerCase
import Concordance.Text.Matching
import Concordance.Text.Number
import Concordance.Text.Printable
import Concordance.Text.Quoted
import Concordance.Text.RangeMap
import Concordance.Text.Utf8
import Concordance.Text.Words
import Concordance.Url.Basic
import Concordance.Url.Domain
import Concordance.Url.DomainTable
import Concordance.Url.Host
import Concordance.Url.Parse
import Concordance.Url.Percent
import Concordance.Url.Punycode
import Concordance.Proofs.AddressText
import Concordance.Proofs.CrawlLedger
import Concordance.Proofs.ExactHits
import Concordance.Index.Shared
import Concordance.Proofs.SharedIndexStep
import Concordance.Proofs.AtomicIndex
import Concordance.Proofs.FreshSearches
import Concordance.Proofs.ServedSearches
import Concordance.Proofs.LockWakeups
import Concordance.Proofs.PoolParking
import Concordance.Proofs.ByteOrder
import Concordance.Proofs.HitOrder
import Concordance.Proofs.PartialHits
import Concordance.Proofs.HitBounds
import Concordance.Proofs.LocalHits
import Concordance.Proofs.EncodedText
import Concordance.Proofs.WholeText
import Concordance.Proofs.FaithfulKeys
import Concordance.Proofs.EntityBorders
import Concordance.Proofs.VisibleText
import Concordance.Proofs.NestedElements
import Concordance.Proofs.KeyLookup
import Concordance.Proofs.DocumentText
import Concordance.Proofs.ExactShares
import Concordance.Proofs.StrippedBlocks
import Concordance.Proofs.TextListing
import Concordance.Proofs.WrittenIndex
import Concordance.Proofs.AllowedOrigins
import Concordance.Proofs.CheckedTotals
import Concordance.Proofs.FewerFlags
import Concordance.Proofs.FailedStages
