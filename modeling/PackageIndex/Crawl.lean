import PackageIndex.Job
/-!
The crawl. One run fetches at most one package: the earliest path of the queue if there
is one, and otherwise the most overdue package once its time has come.
-/
namespace PackageIndex

structure CrawlSettings where
  intervalSecs : UInt64 := 0
  /-- How long a fetched document counts as fresh. -/
  maxAgeHours : UInt64 := 24
  /-- Into how many parts the maximal age is cut for the retry of a failed refresh. -/
  retryDivisor : UInt32 := 3
  deriving DecidableEq

inductive CrawlOutcome where
  | idle
  | newStored
  | newNotFound
  | newFailed
  | refreshed
  | notModified
  | removed
  | refreshFailed
  deriving DecidableEq

namespace CrawlOutcome

/-- What the run was about, as it is counted. -/
def kind : CrawlOutcome → String
  | idle => "idle"
  | newStored | newNotFound | newFailed => "new"
  | refreshed | notModified | removed | refreshFailed => "refresh"

/-- What came of it, as it is counted. -/
def label : CrawlOutcome → String
  | idle => "idle"
  | newStored | refreshed => "stored"
  | newNotFound => "bad_crawl"
  | newFailed | refreshFailed => "failed"
  | notModified => "not_modified"
  | removed => "removed"

end CrawlOutcome

namespace CrawlSettings

/-- The maximal age, at most the longest delay. -/
def maxAge (s : CrawlSettings) : Span :=
  min (Span.ofSeconds (s.maxAgeHours.toNat * 3600)) Span.longestDelay

/-- The greatest divisor that counts. -/
def maxDivisor : Nat := 0x7fffffff

/-- The delay before a failed refresh is tried again: at least one second, since crawl
times are kept in whole seconds. -/
def retryDelay (s : CrawlSettings) : Span :=
  max (s.maxAge.divide (max (min s.retryDivisor.toNat maxDivisor) 1)) (Span.ofSeconds 1)

end CrawlSettings

namespace Crawl

/-- What a run leaves: its outcome, the catalog, and what the fetcher was asked. -/
structure Result where
  exit : Except Interruption CrawlOutcome
  catalog : Catalog
  asked : Option FetchRequest := none

/- The faults may have become others, `later`, by the time a failed refresh is put off: the
same operation may fail first and then not. -/
variable (settings : CrawlSettings) (fetch : Fetcher) (faults later : CatalogFaults)

def storeNew (clock now : Instant) (target : CrawlTarget) (document? : Option Document)
    (c : Catalog) : CrawlOutcome × Catalog :=
  match document? with
  | some d =>
    match Access.put faults d (some (now.after settings.maxAge)) false c with
    | .ok ((), c) => (.newStored, c)
    | .error _ => (.newFailed, c)
  | none =>
    match Access.markBad faults clock target.importPath c with
    | .ok ((), c) => (.newNotFound, c)
    | .error _ => (.newNotFound, c)

def crawlNew (clock now : Instant) (target : CrawlTarget) (c : Catalog) : Result :=
  let request := FetchRequest.newTarget target.importPath target.hasSubdirs
  match fetch request with
  | .ok document? =>
    let (outcome, c) := storeNew settings faults clock now target document? c
    ⟨.ok outcome, c, some request⟩
  | .error (.error _) => ⟨.ok .newFailed, c, some request⟩
  | .error (.crash p) => ⟨.error (.crashed p), c, some request⟩

/-- The request for a stored package. -/
def refreshRequest (entry : Entry) : FetchRequest :=
  { importPath := entry.record.importPath
    reason := .refresh
    prior := some entry.record.document
    hasSubdirs := entry.subdirs ≠ []
    priorCrawl := some entry.record.nextCrawl }

/-- Stores what a refresh found. A document with the etag of the stored one only moves the
schedule of the packages that share it. -/
def storeRefresh (now : Instant) (prior : Record) (document? : Option Document) :
    Access CrawlOutcome := fun c =>
  let next := now.after settings.maxAge
  match document? with
  | none => (Access.delete faults prior.importPath c).map fun (_, c) => (.removed, c)
  | some d =>
    if d.etag ≠ "" ∧ d.etag = prior.document.etag then
      (Access.setNextCrawl faults d.projectRoot d.etag next c).map
        fun (_, c) => (.notModified, c)
    else
      (Access.put faults d (some next) prior.suppressed c).map fun (_, c) => (.refreshed, c)

/-- Schedules the retry of a failed refresh. -/
def retry (now : Instant) (prior : Record) (c : Catalog) : Catalog :=
  match Access.setNextCrawl later prior.document.projectRoot prior.document.etag
      (now.after settings.retryDelay) c with
  | .ok ((), c) => c
  | .error _ => c

def refresh (now : Instant) (entry : Entry) (c : Catalog) : Result :=
  let request := refreshRequest entry
  let failed : Result :=
    ⟨.ok .refreshFailed, retry settings later now entry.record c, some request⟩
  match fetch request with
  | .ok document? =>
    match storeRefresh settings faults now entry.record document? c with
    | .ok (outcome, c) => ⟨.ok outcome, c, some request⟩
    | .error _ => failed
  | .error (.error _) => failed
  | .error (.crash p) => ⟨.error (.crashed p), c, some request⟩

/-- One run as of `now`; the clock only dates a bad path. -/
def run (clock now : Instant) (c : Catalog) : Result :=
  match Access.popNewCrawl faults c with
  | .error e =>
    ⟨.error (.failed (.executionFailed
      (becauseOf "Failed to pop new crawl target" e.message))), c, none⟩
  | .ok (some target, c) => crawlNew settings fetch faults clock now target c
  | .ok (none, c) =>
    match Access.mostOverdue faults c with
    | .error e =>
      ⟨.error (.failed (.executionFailed
        (becauseOf "Failed to read most overdue package" e.message))), c, none⟩
    | .ok (none, c) => ⟨.ok .idle, c, none⟩
    | .ok (some entry, c) =>
      if now < entry.record.nextCrawl then ⟨.ok .idle, c, none⟩
      else refresh settings fetch faults later now entry c

/-- A run in the world as of its clock, counted by its outcome. -/
def execute (w : World) : Except Interruption Unit × World :=
  let result := run settings fetch faults later w.clock w.clock w.catalog
  let w := { w with
    catalog := result.catalog
    inquiries := w.inquiries ++ result.asked.toList.map Inquiry.fetch }
  match result.exit with
  | .ok outcome =>
    (.ok (), { w with metrics := w.metrics.recordCrawl outcome.kind outcome.label })
  | .error e => (.error e, w)

def job : Job :=
  { id := "crawl"
    name := "Crawl"
    description := "Crawl one new import path or refresh the most overdue package"
    interval := Span.ofSeconds settings.intervalSecs.toNat
    execute := execute settings fetch faults later }

end Crawl

end PackageIndex
