import PackageIndex.Instant
import PackageIndex.Table
/-!
Measurements of the jobs: how often each ran and how it ended, how long it took, whether
it is running, what the crawls did, how many changes the update feed reported and which
verdicts were reached.
-/
namespace PackageIndex

/-- Durations of a job in seconds: how many there were up to each bound, and their sum. -/
structure Histogram where
  /-- How many durations each bound was the first to hold. -/
  counts : List Nat
  count : Nat
  sum : Float

structure Metrics where
  /-- Runs by job and then by how they ended. -/
  jobRuns : Table String (Table String Nat) := Table.empty
  durations : Table String Histogram := Table.empty
  running : Table String Bool := Table.empty
  /-- Crawls by kind and then by outcome. -/
  crawls : Table String (Table String Nat) := Table.empty
  feedChanges : Float := 0
  verdicts : Table String Nat := Table.empty

/-- A span in seconds, as a number of sixty-four bits. -/
def Span.toFloat (s : Span) : Float :=
  s.secs.toUInt64.toFloat + s.subsec.toUInt64.toFloat / 1000000000

namespace Histogram

/-- The upper bounds that durations are counted by. -/
def bounds : List Float := [0.01, 0.1, 0.5, 1, 5, 30, 60, 300, 1800]

def empty : Histogram := ⟨bounds.map fun _ => 0, 0, 0⟩

/-- Counts one at the first bound that holds the value. -/
def countAt (x : Float) : List Float → List Nat → List Nat
  | bound :: bounds, n :: counts =>
    if x ≤ bound then (n + 1) :: counts else n :: countAt x bounds counts
  | _, counts => counts

def observe (h : Histogram) (x : Float) : Histogram :=
  ⟨countAt x bounds h.counts, h.count + 1, h.sum + x⟩

/-- How many durations are at most each bound. -/
def cumulative : Nat → List Nat → List Nat
  | _, [] => []
  | sum, n :: counts => (sum + n) :: cumulative (sum + n) counts

end Histogram

namespace Metrics

def increment (t : Table String Nat) (key : String) : Table String Nat :=
  t.put key ((t.find? key).getD 0 + 1)

def increment₂ (t : Table String (Table String Nat)) (outer inner : String) :
    Table String (Table String Nat) :=
  t.put outer (increment ((t.find? outer).getD Table.empty) inner)

def recordRun (m : Metrics) (jobId ending : String) (duration : Span) : Metrics :=
  { m with
    jobRuns := increment₂ m.jobRuns jobId ending
    durations := m.durations.put jobId
      (((m.durations.find? jobId).getD Histogram.empty).observe duration.toFloat) }

def setRunning (m : Metrics) (jobId : String) (running : Bool) : Metrics :=
  { m with running := m.running.put jobId running }

def recordCrawl (m : Metrics) (kind outcome : String) : Metrics :=
  { m with crawls := increment₂ m.crawls kind outcome }

def recordFeedChanges (m : Metrics) (count : Nat) : Metrics :=
  { m with feedChanges := m.feedChanges + count.toUInt64.toFloat }

def recordVerdict (m : Metrics) (verdict : String) : Metrics :=
  { m with verdicts := increment m.verdicts verdict }

end Metrics

end PackageIndex
