import PackageIndex.CommandLine
import PackageIndex.Disk.Databases
import PackageIndex.Catalog.Access
/-!
The command line that queues paths for their first crawl. Blank paths are passed over,
and bad ones are refused and reported.
-/
namespace PackageIndex.Enqueue

structure Report where
  queued : Nat := 0
  /-- The refused paths, in the order of the arguments. -/
  refused : List String := []
  deriving DecidableEq

namespace Report

/-- The report of one more path, before those of another report. -/
def add (path : String) (accepted : Bool) (r : Report) : Report :=
  if accepted then { r with queued := r.queued + 1 } else { r with refused := path :: r.refused }

def output (r : Report) : String := "Queued " ++ Text.decimal r.queued ++ " import paths\n"

def complaints (r : Report) : String :=
  String.join (r.refused.map fun path => "Refused " ++ path ++ ": marked as a bad crawl\n")

def code (r : Report) : Nat := if r.refused = [] then 0 else 1

end Report

structure Failed where
  path : String
  why : StoreError
  deriving DecidableEq

def Failed.message (e : Failed) : String := becauseOf ("Failed to queue " ++ e.path) e.why.message

/-- Queues paths one after the other; the first that the store fails on ends it. The clock is read
for each path anew, as it goes by when its argument is reached. -/
def enqueue (faults : CatalogFaults) (hasSubdirs : Bool) :
    (Nat → Instant) → List String → Catalog → Except Failed Report × Catalog
  | _, [], c => (.ok {}, c)
  | clockAt, arg :: rest, c =>
    let path := Text.trimmed arg
    let later := fun n => clockAt (n + 1)
    if path = "" then enqueue faults hasSubdirs later rest c
    else
      match Access.addNewCrawl faults (clockAt 0) path hasSubdirs c with
      | .error why => (.error ⟨path, why⟩, c)
      | .ok (accepted, c) =>
        let (report, c) := enqueue faults hasSubdirs later rest c
        (report.map (Report.add path accepted), c)

structure Arguments where
  dbDir : Option String := none
  hasSubdirs : Bool := false
  paths : List String := []
  deriving DecidableEq

namespace Arguments

def kinds : List (String × CommandLine.Kind) := [("db-dir", .value), ("has-subdirs", .flag)]

def take (a : Arguments) : CommandLine.Item → Except CommandLine.Stop Arguments
  | .option _ value => (CommandLine.once a.dbDir (some value)).map fun dbDir => { a with dbDir }
  | .flag _ => if a.hasSubdirs then .error .usage else .ok { a with hasSubdirs := true }
  | .operand path => .ok { a with paths := a.paths ++ [path] }
  | .stop why => .error why

end Arguments

/-- What came of a command line. -/
inductive Outcome where
  | stopped (why : CommandLine.Stop)
  | unopened (e : Schema.OpenError)
  | failed (e : Failed)
  | finished (report : Report)

namespace Outcome

def code : Outcome → Nat
  | stopped why => why.code
  | unopened _ | failed _ => 1
  | finished report => report.code

/-- What is told about an error. -/
def message? : Outcome → Option String
  | unopened e => some e.message
  | failed e => some e.message
  | stopped _ | finished _ => none

end Outcome

/-- Queues paths in the catalog of a directory. -/
def runIn (faults : CatalogFaults) (clockAt : Nat → Instant) (dbDir : String) (hasSubdirs : Bool)
    (paths : List String) (d : Disk) : Outcome × Disk :=
  match d.openCatalog (Disk.join (d.absolute dbDir) "catalog.db") with
  | .error e => (.unopened e, d)
  | .ok (place, c) =>
    match enqueue faults hasSubdirs clockAt paths c with
    | (.error e, c) => (.failed e, d.put place (.catalog c))
    | (.ok report, c) => (.finished report, d.put place (.catalog c))

/-- Carries out a command line; directory and paths have to be there. -/
def run (faults : CatalogFaults) (clockAt : Nat → Instant) (args : List String) (d : Disk) :
    Outcome × Disk :=
  match CommandLine.read Arguments.kinds Arguments.take {} args with
  | .error why => (.stopped why, d)
  | .ok a =>
    match a.dbDir, a.paths with
    | some dbDir, path :: paths => runIn faults clockAt dbDir a.hasSubdirs (path :: paths) d
    | _, _ => (.stopped .usage, d)

end PackageIndex.Enqueue
