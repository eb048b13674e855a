import PackageIndex.Toml.Document
/-!
The settings file: what a TOML document says about the settings. A section is a table by
the names of its settings or an array of them in their order; what it does not name is
left open, and names it does not know are skipped. A moment names nothing.
-/
namespace PackageIndex

open PackageIndex.Toml

structure CrawlSection where
  intervalSecs : Option UInt64 := none
  maxAgeHours : Option UInt64 := none
  retryDivisor : Option UInt32 := none
  deriving DecidableEq

structure PollSection where
  intervalSecs : Option UInt64 := none
  deriving DecidableEq

structure SuppressSection where
  intervalSecs : Option UInt64 := none
  workers : Option UInt64 := none
  inactiveDays : Option UInt32 := none
  deriving DecidableEq

structure RetentionSection where
  intervalSecs : Option UInt64 := none
  retentionDays : Option UInt32 := none
  deriving DecidableEq

structure JobSections where
  crawl : CrawlSection := {}
  poll : PollSection := {}
  suppress : SuppressSection := {}
  retention : RetentionSection := {}
  deriving DecidableEq

structure SettingsFile where
  dbDir : Option String := none
  metricsPort : Option UInt16 := none
  documentService : Option String := none
  httpTimeoutSecs : Option UInt64 := none
  credentials : Option String := none
  jobs : JobSections := {}
  deriving DecidableEq

namespace SettingsFile

/-- What a section says under a position and a name. -/
abbrev Section := Nat → String → Option Value

def section? : Value → Option Section
  | .table _ entries => some fun _ name => entries.lookup name
  | .braced entries => some fun _ name => entries.lookup name
  | .array items => some fun i _ => items[i]?
  | .tables each => some fun i _ => each[i]?.map (.table .header)
  | .moment => some fun _ _ => none
  | _ => none

/-- Reads a setting that may be left open. -/
def setting? (read? : Value → Option α) (s : Section) (i : Nat) (name : String) :
    Option (Option α) :=
  match s i name with
  | none => some none
  | some v => (read? v).map some

/-- Reads a section that may be left out. -/
def part? (read? : Value → Option α) (missing : α) (s : Section) (i : Nat) (name : String) :
    Option α :=
  match s i name with
  | none => some missing
  | some v => read? v

def text? : Value → Option String
  | .text s => some s
  | _ => none

/-- A number below a bound. -/
def below? (bound : Nat) : Value → Option Nat
  | .integer n => if 0 ≤ n ∧ n < bound then some n.toNat else none
  | _ => none

def word16? (v : Value) : Option UInt16 := (below? 0x10000 v).map Nat.toUInt16

def word32? (v : Value) : Option UInt32 := (below? 0x100000000 v).map Nat.toUInt32

def word64? (v : Value) : Option UInt64 := (below? 0x10000000000000000 v).map Nat.toUInt64

def crawl? (v : Value) : Option CrawlSection := do
  let s ← section? v
  let intervalSecs ← setting? word64? s 0 "interval_secs"
  let maxAgeHours ← setting? word64? s 1 "max_age_hours"
  let retryDivisor ← setting? word32? s 2 "refresh_retry_divisor"
  some { intervalSecs, maxAgeHours, retryDivisor }

def poll? (v : Value) : Option PollSection := do
  let s ← section? v
  let intervalSecs ← setting? word64? s 0 "interval_secs"
  some { intervalSecs }

def suppress? (v : Value) : Option SuppressSection := do
  let s ← section? v
  let intervalSecs ← setting? word64? s 0 "interval_secs"
  let workers ← setting? word64? s 1 "workers"
  let inactiveDays ← setting? word32? s 2 "inactive_days"
  some { intervalSecs, workers, inactiveDays }

def retention? (v : Value) : Option RetentionSection := do
  let s ← section? v
  let intervalSecs ← setting? word64? s 0 "interval_secs"
  let retentionDays ← setting? word32? s 1 "retention_days"
  some { intervalSecs, retentionDays }

def jobs? (v : Value) : Option JobSections := do
  let s ← section? v
  let crawl ← part? crawl? {} s 0 "crawl"
  let poll ← part? poll? {} s 1 "github_updates"
  let suppress ← part? suppress? {} s 2 "suppress_packages"
  let retention ← part? retention? {} s 3 "job_history_cleanup"
  some { crawl, poll, suppress, retention }

def ofEntries? (entries : Entries) : Option SettingsFile := do
  let s ← section? (.braced entries)
  let dbDir ← setting? text? s 0 "db_dir"
  let metricsPort ← setting? word16? s 1 "metrics_port"
  let documentService ← setting? text? s 2 "doc_service_url"
  let httpTimeoutSecs ← setting? word64? s 3 "http_timeout_sec"
  let credentials ← setting? text? s 4 "github_credentials"
  let jobs ← part? jobs? {} s 5 "background_jobs"
  some { dbDir, metricsPort, documentService, httpTimeoutSecs, credentials, jobs }

/-- The settings of a file's text. -/
def ofText? (text : String) : Option SettingsFile := (Toml.ofText? text.toList).bind ofEntries?

end SettingsFile

end PackageIndex
