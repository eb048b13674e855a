import PackageIndex.Instant
import PackageIndex.Calendar
import PackageIndex.Cadence
import PackageIndex.Table
import PackageIndex.Catalog.Access
import PackageIndex.Timestamp
import PackageIndex.Credentials
import PackageIndex.RunHistory.Access
import PackageIndex.Metrics.Exposition
import PackageIndex.Crawl
import PackageIndex.Retention
import PackageIndex.Scheduler
import PackageIndex.Suppression
import PackageIndex.UpdatePoll
import PackageIndex.DocumentService
import PackageIndex.GitHub.Health
import PackageIndex.Enqueue
import PackageIndex.Launch
import PackageIndex.Main
import PackageIndex.Proofs.Table
import PackageIndex.Proofs.Text.ByteOrder
import PackageIndex.Proofs.Text.Digits
import PackageIndex.Proofs.Calendar
import PackageIndex.Proofs.Timestamp
import PackageIndex.Proofs.Catalog.Selection
import PackageIndex.Proofs.Catalog.Effects
import PackageIndex.Proofs.Catalog.Below
import PackageIndex.Proofs.Catalog.Separation
import PackageIndex.Proofs.UpdatePoll.Repetition
import PackageIndex.Proofs.Cadence
import PackageIndex.Proofs.Crawl.Progress
import PackageIndex.Proofs.Crawl.Transition
import PackageIndex.Proofs.Scheduler.Spacing
import PackageIndex.Proofs.Scheduler.Bookkeeping
import PackageIndex.Proofs.Scheduler.Comparison
import PackageIndex.Proofs.Json.Literal
import PackageIndex.Proofs.Json.Written
import PackageIndex.Proofs.Catalog.Readable
import PackageIndex.Proofs.Catalog.History
import PackageIndex.Proofs.Catalog.Queue
import PackageIndex.Proofs.Catalog.Hiding
import PackageIndex.Proofs.Suppression.Pool
import PackageIndex.Proofs.Suppression.Settlement
import PackageIndex.Proofs.Suppression.WriteBack
import PackageIndex.Proofs.Suppression.Outcome
import PackageIndex.Proofs.Suppression.Interleaving
import PackageIndex.Proofs.Errand
import PackageIndex.Proofs.Catalog.Times
import PackageIndex.Proofs.Precedence
import PackageIndex.Proofs.Permanence
import PackageIndex.Proofs.Crawl.Draining
import PackageIndex.Proofs.Crawl.Conclusions
import PackageIndex.Proofs.Crawl.Retry
import PackageIndex.Proofs.Schema.Opening
import PackageIndex.Proofs.Schema.Validation
import PackageIndex.Proofs.Schema.Stores
import PackageIndex.Proofs.Json.Lenient
import PackageIndex.Proofs.Catalog.Importers
import PackageIndex.Proofs.Catalog.Documents
import PackageIndex.Proofs.Http.Address
import PackageIndex.Proofs.GitHub.Repository
import PackageIndex.Proofs.GitHub.Address
import PackageIndex.Proofs.GitHub.Health
import PackageIndex.Proofs.GitHub.Cursor
import PackageIndex.Proofs.GitHub.Coverage
import PackageIndex.Proofs.Suppression.Visits
import PackageIndex.Proofs.Suppression.Abandoned
import PackageIndex.Proofs.Crawl.Nesting
import PackageIndex.Proofs.Timestamp.Order
import PackageIndex.Proofs.Retention
import PackageIndex.Proofs.Json.Spelling
import PackageIndex.Proofs.UpdatePoll.Cursor
import PackageIndex.Proofs.Text.Utf8
import PackageIndex.Proofs.Text.Blank
import PackageIndex.Proofs.Credentials.Value
import PackageIndex.Proofs.Credentials.Query
import PackageIndex.Proofs.Enqueue
import PackageIndex.Proofs.Settings
import PackageIndex.Proofs.RunHistory.Recorded
import PackageIndex.Proofs.Schema.Reopening
import PackageIndex.Proofs.RunHistory.Stamp
import PackageIndex.Proofs.Document
import PackageIndex.Proofs.Fetch
import PackageIndex.Proofs.Crawl.Echo
