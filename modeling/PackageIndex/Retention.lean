import PackageIndex.Job
/-!
Trimming the run history: finished runs that started before the retention period are
deleted.
-/
namespace PackageIndex

structure RetentionSettings where
  intervalSecs : UInt64 := 3600
  retentionDays : UInt32 := 7
  deriving DecidableEq

/-- For how long runs are kept. -/
def RetentionSettings.period (s : RetentionSettings) : Span := Span.ofDays s.retentionDays.toNat

namespace Retention

/-- The most days that a delay can have. -/
def longestDays : Nat := 106751991167

example : longestDays = Span.longestDelay.secs / secondsPerDay := rfl

variable (settings : RetentionSettings) (faults : HistoryFaults)

/-- The time from which runs are kept, not before the calendar's start. -/
def cutoff (now : Instant) : Instant := now.before settings.period

def run (now : Instant) (h : RunHistory) : Except JobError (Nat × RunHistory) :=
  if longestDays < settings.retentionDays.toNat then
    .error (.config "job history retention is out of range")
  else
    match h.deleteOlder? faults (cutoff settings now) with
    | .ok result => .ok result
    | .error reason => .error (.executionFailed (becauseOf "Failed to trim job history" reason))

def execute (w : World) : Except Interruption Unit × World :=
  match run settings faults w.clock w.history with
  | .ok (_, history) => (.ok (), { w with history })
  | .error e => (.error (.failed e), w)

def job : Job :=
  { id := "job_history_cleanup"
    name := "Job History Cleanup"
    description := "Delete old job run history based on retention policy"
    interval := Span.ofSeconds settings.intervalSecs.toNat
    execute := execute settings faults }

end Retention

end PackageIndex
