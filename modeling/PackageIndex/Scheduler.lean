import PackageIndex.Cadence
import PackageIndex.Job
/-!
The scheduler. It holds jobs in the order of their registration, each with its cadence,
and on every tick attempts the due ones in that order. Each attempt is entered into the
run history when it begins and when it ends; a history that fails never stops a job.
-/
namespace PackageIndex

/-- A registered job. -/
structure Scheduled where
  job : Job
  cadence : Cadence

structure Scheduler where
  entries : List Scheduled := []

namespace Scheduler

def register (s : Scheduler) (job : Job) : Scheduler :=
  { s with entries := s.entries ++ [{ job, cadence := { interval := job.interval } }] }

def jobCount (s : Scheduler) : Nat := s.entries.length

def tickPeriod (s : Scheduler) : Span :=
  Cadence.tickPeriod (s.entries.map fun e => e.cadence.interval)

/-- When the first job with a name may run next. -/
def nextEligible (s : Scheduler) (jobId : String) : Option Instant :=
  (s.entries.find? fun e => e.job.id = jobId).bind fun e => e.cadence.nextEligible

/-- How attempts of the scheduler are told apart from others. -/
def trigger : String := "schedule"

variable (faults : HistoryFaults)

/-- Enters the beginning of an attempt; without an entry there is no number. -/
def recordStart (job : Job) (w : World) : Option Int × World :=
  match w.history.start? faults w.clock job.id trigger with
  | .ok (id, history) => (some id, { w with history })
  | .error _ => (none, w)

/-- Enters the end of an attempt that has a number. -/
def recordFinish (id? : Option Int) (exit : Except Interruption Unit) (w : World) : World :=
  match id? with
  | none => w
  | some id =>
    match w.history.finish? faults w.clock id (Job.status exit) (Job.message exit) with
    | .ok ((), history) => { w with history }
    | .error _ => w

/-- The time between two readings of the clock; none when it went back. -/
def elapsed (began ended : Instant) : Span := ⟨(ended.toNanos - began.toNanos).toNat⟩

def measureStart (job : Job) (w : World) : World :=
  { w with metrics := w.metrics.setRunning job.id true }

def measureFinish (job : Job) (began : Instant) (exit : Except Interruption Unit) (w : World) :
    World :=
  { w with
    metrics := (w.metrics.recordRun job.id (Job.ending exit) (elapsed began w.clock)).setRunning
      job.id false }

/-- One attempt of a job. -/
def attempt (job : Job) (w : World) : World :=
  let (id?, w) := recordStart faults job w
  let began := w.clock
  let (exit, w) := job.execute (measureStart job w)
  recordFinish faults id? exit (measureFinish job began exit w)

/-- What a tick leaves: the entries, the positions of those attempted, and the world. -/
structure Tick where
  entries : List Scheduled
  attempted : List Nat
  world : World

/- The history may fail otherwise during one attempt than during another; the faults are told
by the position of the entry. -/
variable (faultsAt : Nat → HistoryFaults)

/-- Attempts the due entries from a position onwards. A schedule starts from the tick or
from the clock after the attempt, whichever is later. -/
def tickFrom (now : Instant) : Nat → List Scheduled → World → Tick
  | _, [], w => ⟨[], [], w⟩
  | i, e :: rest, w =>
    if e.cadence.isDue now then
      let w := attempt (faultsAt i) e.job w
      let e := { e with cadence := e.cadence.advance (max now w.clock) }
      let t := tickFrom now (i + 1) rest w
      ⟨e :: t.entries, i :: t.attempted, t.world⟩
    else
      let t := tickFrom now (i + 1) rest w
      ⟨e :: t.entries, t.attempted, t.world⟩

/-- One tick: attempts every job that is due at `now`, one after the other, and counts them. -/
def tick (s : Scheduler) (now : Instant) (w : World) : Scheduler × Nat × World :=
  let t := tickFrom faultsAt now 0 s.entries w
  ({ s with entries := t.entries }, t.attempted.length, t.world)

/-- Turns runs that an earlier process left in progress into failed ones. -/
def recover (w : World) : World :=
  match w.history.markStale? faults w.clock with
  | .ok (_, history) => { w with history }
  | .error _ => w

/-- Sleeps for each of the pauses and then ticks at the clock. -/
def loop : List Span → Scheduler → World → Scheduler × World
  | [], s, w => (s, w)
  | pause :: rest, s, w =>
    let w := { w with clock := w.clock.after pause }
    let (s, _, w) := s.tick (fun _ => faults) w.clock w
    loop rest s w

/-- The control loop, up to its shutdown after some pauses. -/
def run (pauses : List Span) (s : Scheduler) (w : World) : Scheduler × World :=
  loop faults pauses s (recover faults w)

end Scheduler

end PackageIndex
