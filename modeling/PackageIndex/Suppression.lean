import PackageIndex.Job
/-!
Suppression of abandoned packages. The packages of a listing are scored by a pool of workers, and
a verdict that hides a package is written back to the row as it stands by then. Which of the
workers goes on next, and when a verdict is settled, is left open: an evaluation follows a schedule
as far as that goes, and brings what is left to its end in turn.
-/
namespace PackageIndex

structure SuppressSettings where
  intervalSecs : UInt64 := 0
  /-- How many packages are scored at a time. -/
  workers : UInt64 := 4
  inactiveDays : UInt32 := 730
  deriving DecidableEq

/-- Why a package has no verdict. -/
inductive ScoreError where
  | store (e : StoreError)
  | failed (reason : String)
  | crashed (path : String) (p : Payload)
  deriving DecidableEq

def ScoreError.message : ScoreError → String
  | .store e => e.message
  | .failed reason => reason
  | .crashed path (.text s) => becauseOf ("Scorer panicked on " ++ path) s
  | .crashed path .other => becauseOf ("Scorer panicked on " ++ path) "unknown panic"

/-- Whether a package should be hidden. -/
abbrev Verdict := Except ScoreError Bool

/-- How a verdict is counted. -/
def Verdict.label : Verdict → String
  | .error _ => "error"
  | .ok false => "kept"
  | .ok true => "suppressed"

/-- What the scoring of a package has still to do. -/
inductive Scoring where
  | answered (answer : Verdict)
  | crashed (p : Payload)
  /-- The catalog is visited once and may be changed; what follows depends on what was found. -/
  | visit (change : Catalog → Catalog) (next : Catalog → Scoring)

namespace Scoring

/-- A scoring of a single visit. -/
def once (act : Catalog → Scoring × Catalog) : Scoring :=
  .visit (fun c => (act c).2) fun c => (act c).1

/-- The verdict of a scoring that has ended; a crash is the error of its package alone. -/
def verdict? (path : String) : Scoring → Option Verdict
  | .answered answer => some answer
  | .crashed p => some (.error (.crashed path p))
  | .visit _ _ => none

/-- A scoring that nothing comes in between of. -/
def run (path : String) : Scoring → Catalog → Verdict × Catalog
  | .answered answer, c => (answer, c)
  | .crashed p, c => (.error (.crashed path p), c)
  | .visit change next, c => (next c).run path (change c)

end Scoring

abbrev Scorer := Record → Option Credentials → Scoring

structure SuppressionSummary where
  scored : Nat := 0
  suppressed : Nat := 0
  errors : Nat := 0
  deriving DecidableEq

namespace Suppression

/-- The size of the pool, and the number of verdicts that can wait to be settled. That a machine
has no room for so many is left out: then the pool is not made and the run fails, or the whole
program ends. -/
def capacity (workers : UInt64) : Nat := max workers.toNat 1

/-- What happens next; a package is told by its place among those that wait or are scored. -/
inductive Event where
  /-- A free worker takes a package that waits. -/
  | take (i : Nat)
  | visit (i : Nat)
  /-- The verdict of a scoring that has ended is handed on, and its worker is free. -/
  | hand (i : Nat)
  /-- The verdict that was handed on first is settled. -/
  | settle
  deriving DecidableEq

/-- How far an evaluation has come. -/
structure Progress where
  catalog : Catalog
  waiting : List Record
  running : List (Record × Scoring) := []
  handed : List (Record × Verdict) := []
  settled : List (Record × Verdict) := []
  summary : SuppressionSummary := {}

variable (scorer : Scorer) (faults : CatalogFaults) (credentials : Option Credentials)

/-- Hides a package by its row as it stands; one that is gone stays gone. -/
def writeBack (path : String) (summary : SuppressionSummary) (c : Catalog) :
    SuppressionSummary × Catalog :=
  let failed := { summary with errors := summary.errors + 1 }
  match Access.get faults path c with
  | .error _ => (failed, c)
  | .ok (none, c) => (summary, c)
  | .ok (some entry, c) =>
    match Access.put faults entry.record.document none true c with
    | .ok ((), c) => ({ summary with suppressed := summary.suppressed + 1 }, c)
    | .error _ => (failed, c)

def settle (record : Record) (verdict : Verdict) (p : Progress) : Progress :=
  let p := { p with settled := p.settled ++ [(record, verdict)] }
  let summary := { p.summary with scored := p.summary.scored + 1 }
  match verdict with
  | .error _ => { p with summary := { summary with errors := summary.errors + 1 } }
  | .ok false => { p with summary }
  | .ok true =>
    let (summary, catalog) := writeBack faults record.importPath summary p.catalog
    { p with summary, catalog }

/-- One step of an evaluation, if it is possible: a package is only taken by a free worker, and a
verdict only handed on where there is room for it. -/
def step? (workers : UInt64) (p : Progress) : Event → Option Progress
  | .take i =>
    match p.waiting[i]? with
    | none => none
    | some record =>
      if p.running.length < capacity workers then
        some { p with
          waiting := p.waiting.eraseIdx i
          running := p.running ++ [(record, scorer record credentials)] }
      else none
  | .visit i =>
    match p.running[i]? with
    | some (record, .visit change next) =>
      some { p with
        catalog := change p.catalog
        running := p.running.set i (record, next p.catalog) }
    | _ => none
  | .hand i =>
    match p.running[i]? with
    | none => none
    | some (record, scoring) =>
      match scoring.verdict? record.importPath with
      | none => none
      | some verdict =>
        if p.handed.length < capacity workers then
          some { p with
            running := p.running.eraseIdx i
            handed := p.handed ++ [(record, verdict)] }
        else none
  | .settle =>
    match p.handed with
    | [] => none
    | (record, verdict) :: rest => some (settle faults record verdict { p with handed := rest })

/-- Follows a schedule; what is not possible is passed over. -/
def follow (workers : UInt64) (schedule : List Event) (p : Progress) : Progress :=
  schedule.foldl (fun p e => (step? scorer faults credentials workers p e).getD p) p

/-- The packages without a settled verdict. -/
def Progress.unsettled (p : Progress) : List (Record × Scoring) :=
  p.handed.map (fun r => (r.1, .answered r.2)) ++ p.running ++
    p.waiting.map fun record => (record, scorer record credentials)

/-- Scores and settles packages one after the other. -/
def inTurn : List (Record × Scoring) → Progress → Progress
  | [], p => p
  | (record, scoring) :: rest, p =>
    let (verdict, catalog) := scoring.run record.importPath p.catalog
    inTurn rest (settle faults record verdict { p with catalog })

/-- Brings an evaluation to its end. -/
def finish (p : Progress) : Progress :=
  inTurn faults (p.unsettled scorer credentials)
    { p with waiting := [], running := [], handed := [] }

/-- The credentials of a job, read anew on every run. -/
def readCredentials (text? : Option String) : Except JobError (Option Credentials) :=
  match text? with
  | none => .ok none
  | some text =>
    match Credentials.parse text with
    | .ok credentials => .ok credentials
    | .error e => .error (.config (becauseOf "Invalid GitHub credentials" e.message))

/-- What an evaluation leaves; `asked` holds the credentials of every scoring. -/
structure Result where
  exit : Except Interruption SuppressionSummary
  catalog : Catalog
  settled : List (Record × Verdict) := []
  asked : List (Option Credentials) := []

/-- Evaluates all packages. -/
def evaluate (workers : UInt64) (credentialsText? : Option String) (schedule : List Event)
    (c : Catalog) : Result :=
  match readCredentials credentialsText? with
  | .error e => ⟨.error (.failed e), c, [], []⟩
  | .ok credentials =>
    match Access.all faults c with
    | .error e =>
      ⟨.error (.failed (.executionFailed (becauseOf "Failed to list packages" e.message))),
        c, [], []⟩
    | .ok (packages, c) =>
      let p := finish scorer faults credentials
        (follow scorer faults credentials workers schedule { catalog := c, waiting := packages })
      ⟨.ok p.summary, p.catalog, p.settled, p.settled.map fun _ => credentials⟩

/-- The verdicts of some packages, none of them written back. -/
def scoreAll : List Record → Catalog → List (Record × Verdict) × Catalog
  | [], c => ([], c)
  | record :: rest, c =>
    let (verdict, c) := (scorer record credentials).run record.importPath c
    let (verdicts, c) := scoreAll rest c
    ((record, verdict) :: verdicts, c)

/-- An evaluation in the world, its verdicts counted. -/
def execute (workers : UInt64) (credentialsText? : Option String) (w : World) :
    Except Interruption SuppressionSummary × World :=
  let result := evaluate scorer faults workers credentialsText? [] w.catalog
  (result.exit, { w with
    catalog := result.catalog
    metrics := result.settled.foldl (fun m r => m.recordVerdict r.2.label) w.metrics
    inquiries := w.inquiries ++ result.asked.map Inquiry.score })

def job (settings : SuppressSettings) (credentialsText? : Option String) : Job :=
  { id := "suppress_packages"
    name := "Suppress Packages"
    description := "Hide abandoned packages from listings and search"
    interval := Span.ofSeconds settings.intervalSecs.toNat
    execute := fun w =>
      let (exit, w) := execute scorer faults settings.workers credentialsText? w
      (exit.map fun _ => (), w) }

end Suppression

end PackageIndex
