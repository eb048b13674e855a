import PackageIndex.CommandLine
import PackageIndex.Disk.Databases
import PackageIndex.DocumentService
import PackageIndex.GitHub.Health
import PackageIndex.Scheduler
import PackageIndex.Settings
/-!
The launch of the scheduler: from a command line to settings, open databases and jobs.
The databases are made before the credentials are looked at.
-/
namespace PackageIndex.Launch

structure Arguments where
  config : Option String := none
  dbDir : Option String := none
  metricsPort : Option UInt16 := none
  documentService : Option String := none
  httpTimeoutSecs : Option UInt64 := none
  credentials : Option String := none
  crawlIntervalSecs : Option UInt64 := none
  pollIntervalSecs : Option UInt64 := none
  suppressIntervalSecs : Option UInt64 := none
  deriving DecidableEq

namespace Arguments

open CommandLine

def kinds : List (String × Kind) :=
  [ ("config", .value), ("db-dir", .value), ("metrics-port", .value)
  , ("doc-service-url", .value), ("http-timeout-sec", .value), ("github-credentials", .value)
  , ("crawl-interval-secs", .value), ("github-interval-secs", .value)
  , ("suppress-interval-secs", .value) ]

/-- A path in its final form, unless it leads through something that is no directory. -/
def path? (d : Disk) (text : String) : Option String := (d.resolve text).toOption

/-- The path of a directory that is there. -/
def directory? (d : Disk) (text : String) : Option String := (path? d text).filter d.isDirectory

def portNumber? (text : String) : Option UInt16 := (signed? 0x10000 text).map Nat.toUInt16

def seconds? (text : String) : Option UInt64 := (natural? 0x10000000000000000 text).map Nat.toUInt64

def takeOption (d : Disk) (a : Arguments) (name value : String) : Except Stop Arguments :=
  match name with
  | "config" => (once a.config (path? d value)).map ({ a with config := · })
  | "db-dir" => (once a.dbDir (directory? d value)).map ({ a with dbDir := · })
  | "metrics-port" => (once a.metricsPort (portNumber? value)).map ({ a with metricsPort := · })
  | "doc-service-url" =>
    (once a.documentService (some value)).map ({ a with documentService := · })
  | "http-timeout-sec" =>
    (once a.httpTimeoutSecs (seconds? value)).map ({ a with httpTimeoutSecs := · })
  | "github-credentials" => (once a.credentials (some value)).map ({ a with credentials := · })
  | "crawl-interval-secs" =>
    (once a.crawlIntervalSecs (seconds? value)).map ({ a with crawlIntervalSecs := · })
  | "github-interval-secs" =>
    (once a.pollIntervalSecs (seconds? value)).map ({ a with pollIntervalSecs := · })
  | "suppress-interval-secs" =>
    (once a.suppressIntervalSecs (seconds? value)).map ({ a with suppressIntervalSecs := · })
  | _ => .error .usage

def take (d : Disk) (a : Arguments) : Item → Except Stop Arguments
  | .option name value => takeOption d a name value
  | .flag _ | .operand _ => .error .usage
  | .stop why => .error why

/-- What the arguments say about the settings; what they leave open has its default. -/
def options (a : Arguments) : Options :=
  let defaults : Options := {}
  { dbDir := a.dbDir
    metricsPort := a.metricsPort.getD defaults.metricsPort
    documentService := a.documentService
    httpTimeoutSecs := a.httpTimeoutSecs.getD defaults.httpTimeoutSecs
    credentials := a.credentials
    crawlIntervalSecs := a.crawlIntervalSecs.getD defaults.crawlIntervalSecs
    pollIntervalSecs := a.pollIntervalSecs.getD defaults.pollIntervalSecs
    suppressIntervalSecs := a.suppressIntervalSecs.getD defaults.suppressIntervalSecs }

end Arguments

inductive LaunchError where
  | settings (e : SettingsError)
  | unopened (e : Schema.OpenError)
  | credentials (e : Credentials.ParseError)
  deriving DecidableEq

/-- What is told first about an error. -/
def LaunchError.headline : LaunchError → String
  | .settings e => e.headline
  | .unopened e => e.message
  | .credentials _ => "Invalid GitHub credentials"

/-- Where the code host answers. -/
def codeHost : String := "https://api.github.com"

/-- The jobs of the settings, in the order of their registration. -/
def jobs (transport : Http.Transport) (settings : Settings) (credentials : Option Credentials) :
    List Job :=
  let client : GitHub.Client := ⟨transport, codeHost⟩
  let noFaults : Faults := {}
  let crawl := settings.documentService.toList.map fun base =>
    Crawl.job settings.crawl (DocumentService.fetcher transport base) noFaults.catalog
      noFaults.catalog
  let poll (clock : Instant) :=
    UpdatePoll.job (GitHub.Search.feed client credentials clock) noFaults.catalog
      settings.pollIntervalSecs
  let suppress (clock : Instant) :=
    Suppression.job
      (GitHub.Health.scorer client clock settings.suppress.inactiveDays noFaults.catalog)
      noFaults.catalog settings.suppress settings.credentials
  crawl ++
    [ { poll Instant.epoch with execute := fun w => (poll w.clock).execute w }
    , { suppress Instant.epoch with execute := fun w => (suppress w.clock).execute w }
    , Retention.job settings.retention noFaults.history ]

/-- A scheduler that is ready to run. -/
structure Ready where
  settings : Settings
  scheduler : Scheduler
  world : World

/-- Opens the databases of the settings and registers the jobs. -/
def start (transport : Http.Transport) (clock : Instant) (settings : Settings) (d : Disk) :
    Except LaunchError Ready × Disk :=
  match d.openCatalog settings.catalogPath with
  | .error e => (.error (.unopened e), d)
  | .ok (place, catalog) =>
    let d := d.put place (.catalog catalog)
    match d.openHistory settings.historyPath with
    | .error e => (.error (.unopened e), d)
    | .ok (place, history) =>
      let d := d.put place (.history history)
      match settings.credentials.elim (.ok none) Credentials.parse with
      | .error e => (.error (.credentials e), d)
      | .ok credentials =>
        let scheduler := (jobs transport settings credentials).foldl Scheduler.register {}
        (.ok { settings, scheduler, world := { clock, catalog, history } }, d)

/-- The directory that the settings file of a command line names. -/
def namedDirectory? (d : Disk) (args : List String) : Option String := do
  let a ← (CommandLine.read Arguments.kinds (Arguments.take d) {} args).toOption
  let file ← (SettingsFile.load d (← a.config)).toOption
  file.dbDir

/-- What came of a command line. -/
inductive Outcome where
  | stopped (why : CommandLine.Stop)
  | failed (e : LaunchError)
  | ready (r : Ready)

/-- Carries out a command line up to the first tick. -/
def run (transport : Http.Transport) (clock : Instant) (args : List String) (d : Disk) :
    Outcome × Disk :=
  match CommandLine.read Arguments.kinds (Arguments.take d) {} args with
  | .error why => (.stopped why, d)
  | .ok a =>
    match Settings.read d clock a.options a.config with
    | .error e => (.failed (.settings e), d)
    | .ok settings =>
      match start transport clock settings d with
      | (.error e, d) => (.failed e, d)
      | (.ok ready, d) => (.ready ready, d)

end PackageIndex.Launch
