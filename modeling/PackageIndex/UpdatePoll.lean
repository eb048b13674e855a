import PackageIndex.Job
/-!
Polling an update feed. The projects that the feed reports are put first for the next
crawls, and only then the feed's new cursor is stored: whoever stops in between meets the
same projects again.
-/
namespace PackageIndex

structure UpdateBatch where
  /-- Where to go on from. -/
  cursor : String
  /-- The changed projects, as the feed names them. -/
  changed : List String
  deriving DecidableEq

structure UpdateFeed where
  /-- What changed after a cursor; an empty one leaves the start to the feed. -/
  poll : String → Except Failure UpdateBatch
  /-- The project root of an identifier of the feed. -/
  projectRoot : String → String

structure PollSummary where
  changed : Nat
  bumped : Nat
  failed : Nat
  deriving DecidableEq

namespace UpdateCursor

/-- The blob that holds the cursor. -/
def key : String := "github_updates"

/-- The bytes of a cursor: its JSON literal. -/
def encode (cursor : String) : ByteArray := (String.ofList (Json.ofString cursor)).toUTF8

/-- The cursor of a blob, when it is one JSON literal. -/
def decode? (bytes : ByteArray) : Option String :=
  (String.fromUTF8? bytes).bind fun s => Json.string?OfText s.toList

variable (faults : CatalogFaults)

/-- Reads the stored cursor; a missing blob is the empty one. -/
def load (c : Catalog) : Except JobError String :=
  match Access.readBlob faults key c with
  | .error e => .error (.executionFailed (becauseOf "Failed to read update cursor" e.message))
  | .ok (none, _) => .ok ""
  | .ok (some bytes, _) =>
    match decode? bytes with
    | some cursor => .ok cursor
    | none => .error (.config (becauseOf "Stored update cursor is corrupt" Cause.json.mark))

def store (clock : Instant) (cursor : String) : Access Unit :=
  Access.writeBlob faults clock key (encode cursor)

end UpdateCursor

namespace UpdatePoll

/-- What a poll leaves; `reported` is there once the feed has answered. -/
structure Result where
  exit : Except Interruption PollSummary
  catalog : Catalog
  asked : Option String := none
  reported : Option Nat := none

/- The catalog may fail otherwise at one operation than at another; its faults are told by the
number of the operations before. -/
variable (feed : UpdateFeed) (faultsAt : Nat → CatalogFaults) (clock : Instant)

/-- Puts the projects of some identifiers first; one that fails is counted and passed
over. -/
def bumpAll : Nat → List String → PollSummary → Catalog → PollSummary × Catalog
  | _, [], summary, c => (summary, c)
  | n, id :: rest, summary, c =>
    match Access.bump (faultsAt n) (feed.projectRoot id) c with
    | .ok (count, c) => bumpAll (n + 1) rest { summary with bumped := summary.bumped + count } c
    | .error _ => bumpAll (n + 1) rest { summary with failed := summary.failed + 1 } c

/-- What follows once the feed has answered. -/
def apply (batch : UpdateBatch) (c : Catalog) : Except Interruption PollSummary × Catalog :=
  let (summary, c) := bumpAll feed faultsAt 1 batch.changed ⟨batch.changed.length, 0, 0⟩ c
  match UpdateCursor.store (faultsAt (batch.changed.length + 1)) clock batch.cursor c with
  | .ok ((), c) => (.ok summary, c)
  | .error e =>
    (.error (.failed (.executionFailed
      (becauseOf "Failed to store update cursor" e.message))), c)

def poll (c : Catalog) : Result :=
  match UpdateCursor.load (faultsAt 0) c with
  | .error e => ⟨.error (.failed e), c, none, none⟩
  | .ok cursor =>
    match feed.poll cursor with
    | .error (.error reason) =>
      ⟨.error (.failed (.executionFailed (becauseOf "Update feed request failed" reason))),
        c, some cursor, none⟩
    | .error (.crash p) => ⟨.error (.crashed p), c, some cursor, none⟩
    | .ok batch =>
      let (exit, c) := apply feed faultsAt clock batch c
      ⟨exit, c, some cursor, some batch.changed.length⟩

/-- A poll in the world, its changes counted. -/
def execute (faults : CatalogFaults) (w : World) : Except Interruption PollSummary × World :=
  let result := poll feed (fun _ => faults) w.clock w.catalog
  let metrics := match result.reported with
    | some n => w.metrics.recordFeedChanges n
    | none => w.metrics
  (result.exit, { w with
    catalog := result.catalog
    metrics
    inquiries := w.inquiries ++ result.asked.toList.map Inquiry.feed })

def job (faults : CatalogFaults) (intervalSecs : UInt64) : Job :=
  { id := "github_updates"
    name := "GitHub Updates"
    description := "Queue recently pushed repositories for priority re-crawl"
    interval := Span.ofSeconds intervalSecs.toNat
    execute := fun w =>
      let (exit, w) := execute feed faults w
      (exit.map fun _ => (), w) }

end UpdatePoll

end PackageIndex
