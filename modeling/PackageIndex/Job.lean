import PackageIndex.Catalog.Access
import PackageIndex.Credentials
import PackageIndex.Fetch
import PackageIndex.Metrics
import PackageIndex.RunHistory.Access
import PackageIndex.Text.Quoted
/-!
Jobs and the world they run in. A job ends normally, fails with an error of its own, or
crashes; the world keeps what it left behind in each case.
-/
namespace PackageIndex

inductive JobError where
  /-- A collaborator or a store failed; the next run tries again. -/
  | executionFailed (reason : String)
  /-- Stored state or a setting is unusable. -/
  | config (reason : String)
  deriving DecidableEq

def JobError.message : JobError → String
  | .executionFailed reason => becauseOf "Execution failed" reason
  | .config reason => becauseOf "Configuration error" reason

/-- Why an execution did not end normally. -/
inductive Interruption where
  | failed (e : JobError)
  | crashed (p : Payload)
  deriving DecidableEq

/-- How a crash of the running task is told; its number is not. -/
def Payload.taskMessage : Payload → String
  | .text s => "task # panicked with message " ++ Text.quoted s
  | .other => "task # panicked"

def Interruption.message : Interruption → String
  | .failed e => e.message
  | .crashed p => becauseOf "Job panicked" p.taskMessage

/-- What the collaborators of the jobs were asked. -/
inductive Inquiry where
  | fetch (request : FetchRequest)
  | feed (cursor : String)
  | score (credentials : Option Credentials)
  deriving DecidableEq

structure World where
  clock : Instant
  catalog : Catalog := {}
  history : RunHistory := {}
  metrics : Metrics := {}
  /-- What was asked, in order. -/
  inquiries : List Inquiry := []

/-- The operations of both stores that fail. -/
structure Faults where
  catalog : CatalogFaults := fun _ => none
  history : HistoryFaults := fun _ => none

structure Job where
  id : String
  name : String
  description : String
  /-- A zero interval disables the job. -/
  interval : Span
  execute : World → Except Interruption Unit × World

namespace Job

/-- How a run is entered into the history. -/
def status : Except Interruption Unit → RunStatus
  | .ok () => .completed
  | .error _ => .failed

def message : Except Interruption Unit → Option String
  | .ok () => none
  | .error e => some e.message

/-- How a run is counted. -/
def ending : Except Interruption Unit → String
  | .ok () => "success"
  | .error (.failed _) => "failed"
  | .error (.crashed _) => "panic"

end Job

end PackageIndex
