import PackageIndex.Cause
import PackageIndex.RunHistory
/-!
Operations on the run history that may fail. A failing operation changes nothing.
-/
namespace PackageIndex

/-- An operation with the argument that faults may depend on. -/
inductive HistoryOp where
  | start (jobId : String)
  | finish (id : Int)
  | running
  | last (jobId : String)
  | markStale
  | deleteOlder
  deriving DecidableEq

/-- The operations that fail, each with its reason. -/
abbrev HistoryFaults := HistoryOp → Option String

namespace RunHistory

/-- An operation that fails before it starts when the faults say so. -/
def guarded (faults : HistoryFaults) (op : HistoryOp) (act : RunHistory → α × RunHistory)
    (h : RunHistory) : Except String (α × RunHistory) :=
  match faults op with
  | some reason => .error reason
  | none => .ok (act h)

variable (faults : HistoryFaults) (h : RunHistory)

/-- Without a free number the start fails. -/
def start? (clock : Instant) (jobId trigger : String) : Except String (Int × RunHistory) :=
  match faults (.start jobId) with
  | some reason => .error reason
  | none =>
    match h.start clock jobId trigger with
    | some started => .ok started
    | none => .error Cause.storage.mark

def finish? (clock : Instant) (id : Int) (status : RunStatus) (message : Option String) :
    Except String (Unit × RunHistory) :=
  guarded faults (.finish id) (fun h => ((), h.finish clock id status message)) h

def running? : Except String (List Run × RunHistory) :=
  guarded faults .running (fun h => (h.running, h)) h

def last?? (jobId : String) : Except String (Option Run × RunHistory) :=
  guarded faults (.last jobId) (fun h => (h.last? jobId, h)) h

def markStale? (clock : Instant) : Except String (Nat × RunHistory) :=
  guarded faults .markStale (·.markStale clock) h

def deleteOlder? (cutoff : Instant) : Except String (Nat × RunHistory) :=
  guarded faults .deleteOlder (·.deleteOlder cutoff) h

end RunHistory

end PackageIndex
