import PackageIndex.Table
import PackageIndex.Timestamp
/-!
The history of job runs. A new run's number is one more than the greatest in use; past the
greatest number that there is, numbers are drawn at random. Times are kept as timestamp text and
compared as text.
-/
namespace PackageIndex

inductive RunStatus where
  | running
  | completed
  | failed
  deriving DecidableEq

namespace RunStatus

def text : RunStatus → String
  | running => "running"
  | completed => "completed"
  | failed => "failed"

def ofText? (s : String) : Option RunStatus :=
  [running, completed, failed].find? fun status => status.text = s

theorem ofText?_text (status : RunStatus) : ofText? status.text = some status := by
  cases status <;> rfl

end RunStatus

/-- A row of the history, as it is kept. -/
structure RunRow where
  jobId : String
  startedAt : String
  finishedAt : Option String
  status : String
  message : Option String
  trigger : String
  deriving DecidableEq

/-- A run as the history hands it out. -/
structure Run where
  id : Int
  jobId : String
  startedAt : Instant
  finishedAt : Option Instant
  status : RunStatus
  message : Option String
  trigger : String
  deriving DecidableEq

/-- The text that times are kept as. -/
def Instant.stamp (t : Instant) : String := String.ofList (Timestamp.text t)

def Instant.ofStamp? (s : String) : Option Instant := Timestamp.instant? s.toList

/-- Reads a row: an unreadable start is the epoch, an unreadable end is none, and an
unknown status counts as failed. -/
def RunRow.run (id : Int) (row : RunRow) : Run :=
  { id
    jobId := row.jobId
    startedAt := (Instant.ofStamp? row.startedAt).getD Instant.epoch
    finishedAt := row.finishedAt.bind Instant.ofStamp?
    status := (RunStatus.ofText? row.status).getD .failed
    message := row.message
    trigger := row.trigger }

structure RunHistory where
  rows : Table Int RunRow := Table.empty
  /-- The random words that are still to come; any may come. -/
  words : Nat → UInt64 := fun _ => 0

namespace RunHistory

/-- The greatest number of a row: one of 64 bits with a sign. -/
def maxId : Nat := 9223372036854775807

/-- How many numbers are drawn for a row at the most. -/
def maxDraws : Nat := 100

/-- The number that a random word stands for, a positive one of the lower half. -/
def drawnId (word : UInt64) : Int := (word.toNat % 0x4000000000000000 : Nat) + 1

/-- What is noted for a run that was still going when the scheduler started. -/
def interruption : String := "Job was interrupted (scheduler restart)"

/-- The number after the greatest one in use. -/
def nextId (h : RunHistory) : Int :=
  match h.rows.keys.getLast? with
  | none => 1
  | some id => id + 1

/-- The numbers that are drawn for a row. -/
def drawnIds (h : RunHistory) : List Int := (List.range maxDraws).map fun n => drawnId (h.words n)

/-- The number of the next row, if one is found. -/
def freeId? (h : RunHistory) : Option Int :=
  if h.nextId ≤ maxId then some h.nextId else h.drawnIds.find? fun id => !h.rows.contains id

def isRunning (row : RunRow) : Bool := row.status = RunStatus.running.text

/-- The row of a run that has just begun. -/
def begun (clock : Instant) (jobId trigger : String) : RunRow :=
  { jobId, startedAt := clock.stamp, finishedAt := none
    status := RunStatus.running.text, message := none, trigger }

/-- A row is added; the words that its number may be drawn from do not come again. -/
def withRow (h : RunHistory) (id : Int) (row : RunRow) : RunHistory :=
  { rows := h.rows.put id row, words := fun n => h.words (n + maxDraws) }

def start (h : RunHistory) (clock : Instant) (jobId trigger : String) :
    Option (Int × RunHistory) :=
  h.freeId?.map fun id => (id, h.withRow id (begun clock jobId trigger))

/-- Notes the end of a run; a number without a row changes nothing. -/
def finish (h : RunHistory) (clock : Instant) (id : Int) (status : RunStatus)
    (message : Option String) : RunHistory :=
  { h with rows := h.rows.adjust fun k row =>
      if k = id then
        { row with finishedAt := some clock.stamp, status := status.text, message }
      else row }

def runs (h : RunHistory) : List Run := h.rows.rows.map fun (id, row) => row.run id

/-- The runs in progress, the latest number first. -/
def running (h : RunHistory) : List Run :=
  ((h.rows.rows.filter fun r => isRunning r.2).map fun (id, row) => row.run id).reverse

/-- The later start comes first, and of equal starts the greater number. -/
def newerFirst (a b : Int × RunRow) : Bool :=
  b.2.startedAt < a.2.startedAt || (a.2.startedAt = b.2.startedAt && b.1 ≤ a.1)

/-- A job's runs, the newest first. -/
def ofJob (h : RunHistory) (jobId : String) : List Run :=
  ((h.rows.rows.filter fun r => r.2.jobId = jobId).mergeSort newerFirst).map
    fun (id, row) => row.run id

/-- As many runs as a limit says. It is read as a signed number, and a negative one sets no
limit. -/
def limited (limit : UInt64) (runs : List Run) : List Run :=
  if limit.toInt64 < 0 then runs else runs.take limit.toNat

def recent (h : RunHistory) (jobId : String) (limit : UInt64) : List Run :=
  limited limit (h.ofJob jobId)

def last? (h : RunHistory) (jobId : String) : Option Run := (h.ofJob jobId).head?

/-- Turns the runs in progress into failed ones and counts them. -/
def markStale (h : RunHistory) (clock : Instant) : Nat × RunHistory :=
  ((h.rows.values.filter isRunning).length,
    { h with rows := h.rows.adjust fun _ row =>
        if isRunning row then
          { row with
            status := RunStatus.failed.text, finishedAt := some clock.stamp
            message := some interruption }
        else row })

def isExpired (cutoff : Instant) (row : RunRow) : Bool :=
  row.startedAt < cutoff.stamp && !isRunning row

/-- Deletes the finished runs that started before a time and counts them. -/
def deleteOlder (h : RunHistory) (cutoff : Instant) : Nat × RunHistory :=
  ((h.rows.values.filter (isExpired cutoff)).length,
    { h with rows := h.rows.filter fun r => !isExpired cutoff r.2 })

end RunHistory

end PackageIndex
