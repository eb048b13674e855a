import PackageIndex.Crawl
import PackageIndex.Disk
import PackageIndex.Retention
import PackageIndex.Settings.File
import PackageIndex.Suppression
/-!
The settings of a run. What the settings file says counts before what the command line
says, and that before the defaults. Settings that a job could not keep to exactly are
refused: a retry divisor that is zero or larger than the greatest that counts, and a
maximal age that leads from the clock past the calendar's end.
-/
namespace PackageIndex

/-- What the command line says about the settings. -/
structure Options where
  dbDir : Option String := none
  metricsPort : UInt16 := 9092
  documentService : Option String := none
  httpTimeoutSecs : UInt64 := 30
  credentials : Option String := none
  crawlIntervalSecs : UInt64 := 0
  pollIntervalSecs : UInt64 := 0
  suppressIntervalSecs : UInt64 := 0
  deriving DecidableEq

structure Settings where
  dbDir : String
  /-- Zero turns the metrics off. -/
  metricsPort : UInt16
  /-- Without a document service nothing is crawled. -/
  documentService : Option String
  httpTimeoutSecs : UInt64
  credentials : Option String
  crawl : CrawlSettings
  pollIntervalSecs : UInt64
  suppress : SuppressSettings
  retention : RetentionSettings
  deriving DecidableEq

inductive SettingsError where
  | unreadableFile (path : String)
  | malformedFile (path : String)
  | noDirectory
  | missingDirectory (path : String)
  | notDirectory (path : String)
  | divisorOutOfRange
  | maxAgeOutOfRange (hours : UInt64)
  deriving DecidableEq

namespace SettingsError

/-- What is told first about an error. -/
def headline : SettingsError → String
  | unreadableFile path => "Failed to read config file: " ++ Text.quoted path
  | malformedFile path => "Failed to parse config file: " ++ Text.quoted path
  | noDirectory => "db_dir must be specified via --db-dir or in config file"
  | missingDirectory path => "Database directory does not exist: " ++ Text.quoted path
  | notDirectory path => "db_dir is not a directory: " ++ Text.quoted path
  | divisorOutOfRange =>
    "background_jobs.crawl.refresh_retry_divisor must be between 1 and "
      ++ Text.decimal CrawlSettings.maxDivisor
  | maxAgeOutOfRange hours =>
    "background_jobs.crawl.max_age_hours is out of range: " ++ Text.decimal hours.toNat

def cause? : SettingsError → Option Cause
  | unreadableFile _ => some .file
  | malformedFile _ => some .settings
  | _ => none

def message (e : SettingsError) : String :=
  match e.cause? with
  | some cause => becauseOf e.headline cause.mark
  | none => e.headline

end SettingsError

namespace SettingsFile

/-- Reads the settings file at a path. -/
def load (d : Disk) (path : String) : Except SettingsError SettingsFile :=
  match d.readText? path with
  | none => .error (.unreadableFile path)
  | some text =>
    match ofText? text with
    | none => .error (.malformedFile path)
    | some file => .ok file

end SettingsFile

namespace CrawlSettings

/-- The divisor is one that counts. -/
def HasValidDivisor (s : CrawlSettings) : Prop :=
  1 ≤ s.retryDivisor.toNat ∧ s.retryDivisor.toNat ≤ maxDivisor

instance (s : CrawlSettings) : Decidable s.HasValidDivisor := inferInstanceAs (Decidable (_ ∧ _))

/-- The maximal age, when a delay can be as long. -/
def exactMaxAge? (s : CrawlSettings) : Option Span :=
  let age := Span.ofSeconds (s.maxAgeHours.toNat * 3600)
  if age ≤ Span.longestDelay then some age else none

/-- The calendar reaches the maximal age after the clock. -/
def ReachesMaxAge (s : CrawlSettings) (clock : Instant) : Prop :=
  (s.exactMaxAge?.bind clock.after?).isSome

instance (s : CrawlSettings) (clock : Instant) : Decidable (s.ReachesMaxAge clock) :=
  inferInstanceAs (Decidable (_ = true))

end CrawlSettings

/-- The settings of a section, before they are examined. -/
def CrawlSection.settings (s : CrawlSection) (options : Options) : CrawlSettings :=
  let defaults : CrawlSettings := {}
  { intervalSecs := s.intervalSecs.getD options.crawlIntervalSecs
    maxAgeHours := s.maxAgeHours.getD defaults.maxAgeHours
    retryDivisor := s.retryDivisor.getD defaults.retryDivisor }

def PollSection.interval (s : PollSection) (options : Options) : UInt64 :=
  s.intervalSecs.getD options.pollIntervalSecs

def SuppressSection.settings (s : SuppressSection) (options : Options) : SuppressSettings :=
  let defaults : SuppressSettings := {}
  { intervalSecs := s.intervalSecs.getD options.suppressIntervalSecs
    workers := s.workers.getD defaults.workers
    inactiveDays := s.inactiveDays.getD defaults.inactiveDays }

def RetentionSection.settings (s : RetentionSection) : RetentionSettings :=
  let defaults : RetentionSettings := {}
  { intervalSecs := s.intervalSecs.getD defaults.intervalSecs
    retentionDays := s.retentionDays.getD defaults.retentionDays }

namespace Settings

/-- The directory of the databases. -/
def directory (d : Disk) (options : Options) (file : SettingsFile) :
    Except SettingsError String :=
  match file.dbDir <|> options.dbDir with
  | none => .error .noDirectory
  | some path =>
    if !d.isThere path then .error (.missingDirectory path)
    else if !d.isDirectory path then .error (.notDirectory path)
    else .ok path

/-- The settings in a directory, before they are examined. -/
def combine (dbDir : String) (options : Options) (file : SettingsFile) : Settings :=
  { dbDir
    metricsPort := file.metricsPort.getD options.metricsPort
    documentService :=
      (file.documentService <|> options.documentService).filter fun url =>
        Text.trimmed url ≠ ""
    httpTimeoutSecs := file.httpTimeoutSecs.getD options.httpTimeoutSecs
    credentials := file.credentials <|> options.credentials
    crawl := file.jobs.crawl.settings options
    pollIntervalSecs := file.jobs.poll.interval options
    suppress := file.jobs.suppress.settings options
    retention := file.jobs.retention.settings }

/-- The settings of a run that begins at the clock. -/
def resolve (d : Disk) (clock : Instant) (options : Options) (file : SettingsFile) :
    Except SettingsError Settings :=
  match directory d options file with
  | .error e => .error e
  | .ok dbDir =>
    let settings := combine dbDir options file
    if ¬ settings.crawl.HasValidDivisor then .error .divisorOutOfRange
    else if ¬ settings.crawl.ReachesMaxAge clock then
      .error (.maxAgeOutOfRange settings.crawl.maxAgeHours)
    else .ok settings

/-- The settings of a run that begins at the clock, with the settings file at a path if one is
named. -/
def read (d : Disk) (clock : Instant) (options : Options) (path? : Option String) :
    Except SettingsError Settings :=
  match path? with
  | none => resolve d clock options {}
  | some path => (SettingsFile.load d path).bind (resolve d clock options)

def catalogPath (s : Settings) : String := Disk.join s.dbDir "catalog.db"

def historyPath (s : Settings) : String := Disk.join s.dbDir "jobs.db"

end Settings

end PackageIndex
