import PackageIndex.Crawl
import PackageIndex.Proofs.RunHistory
import PackageIndex.Retention
import PackageIndex.Scheduler
import PackageIndex.Suppression
import PackageIndex.UpdatePoll
/-!
One attempt of a job and the row it is entered in. While the job runs, the row is one of a run in
progress, so not even a job that trims the history can remove it; what becomes of it is decided by
the end of its own attempt.
-/
namespace PackageIndex

open RunHistory (isRunning Trims Spares)

/-- All that a job does to the run history is to trim it. -/
def Job.OnlyTrims (job : Job) : Prop := ∀ w, Trims w.history (job.execute w).2.history

theorem Retention.job_onlyTrims (settings : RetentionSettings) (faults : HistoryFaults) :
    (Retention.job settings faults).OnlyTrims := by
  intro w
  simp only [Retention.job, Retention.execute, Retention.run, RunHistory.deleteOlder?,
    RunHistory.guarded]
  by_cases hlong : Retention.longestDays < settings.retentionDays.toNat
  · simp only [if_pos hlong]
    exact .nothing
  · simp only [if_neg hlong]
    cases faults .deleteOlder with
    | none => exact .more _ .nothing
    | some reason => exact .nothing

theorem Crawl.job_onlyTrims (settings : CrawlSettings) (fetch : Fetcher)
    (faults later : CatalogFaults) : (Crawl.job settings fetch faults later).OnlyTrims := by
  intro w
  simp only [Crawl.job, Crawl.execute]
  split <;> exact .nothing

theorem UpdatePoll.job_onlyTrims (feed : UpdateFeed) (faults : CatalogFaults)
    (intervalSecs : UInt64) : (UpdatePoll.job feed faults intervalSecs).OnlyTrims :=
  fun _ => .nothing

theorem Suppression.job_onlyTrims (scorer : Scorer) (faults : CatalogFaults)
    (settings : SuppressSettings) (credentialsText? : Option String) :
    (Suppression.job scorer faults settings credentialsText?).OnlyTrims :=
  fun _ => .nothing

/-- The jobs of the program. -/
inductive Job.OfProgram : Job → Prop
  | retention (settings : RetentionSettings) (faults : HistoryFaults) :
      OfProgram (Retention.job settings faults)
  | crawl (settings : CrawlSettings) (fetch : Fetcher) (faults later : CatalogFaults) :
      OfProgram (Crawl.job settings fetch faults later)
  | updatePoll (feed : UpdateFeed) (faults : CatalogFaults) (intervalSecs : UInt64) :
      OfProgram (UpdatePoll.job feed faults intervalSecs)
  | suppression (scorer : Scorer) (faults : CatalogFaults) (settings : SuppressSettings)
      (credentialsText? : Option String) :
      OfProgram (Suppression.job scorer faults settings credentialsText?)

theorem Job.OfProgram.onlyTrims {job : Job} (h : job.OfProgram) : job.OnlyTrims := by
  cases h with
  | retention settings faults => exact Retention.job_onlyTrims settings faults
  | crawl settings fetch faults later => exact Crawl.job_onlyTrims settings fetch faults later
  | updatePoll feed faults intervalSecs => exact UpdatePoll.job_onlyTrims feed faults intervalSecs
  | suppression scorer faults settings credentialsText? =>
      exact Suppression.job_onlyTrims scorer faults settings credentialsText?

namespace Scheduler

/-- An attempt of a job: the operations on the history that fail during it, and the world that it
begins in. -/
structure Attempt where
  job : Job
  faults : HistoryFaults
  found : World

namespace Attempt

variable (a : Attempt)

/-- The number it is entered under, when it is. -/
def number : Option Int := (recordStart a.faults a.job a.found).1

def entered : World := (recordStart a.faults a.job a.found).2

def exit : Except Interruption Unit := (a.job.execute (measureStart a.job a.entered)).1

/-- The world that the job itself leaves. -/
def left : World := (a.job.execute (measureStart a.job a.entered)).2

def after : World := attempt a.faults a.job a.found

def begun : RunRow := RunHistory.begun a.found.clock a.job.id trigger

/-- The row of a job that has ended, the clock read before and after it. -/
def ended : RunRow where
  jobId := a.job.id
  startedAt := a.found.clock.stamp
  finishedAt := some a.left.clock.stamp
  status := match a.exit with
    | .ok () => "completed"
    | .error _ => "failed"
  message := match a.exit with
    | .ok () => none
    | .error e => some e.message
  trigger := "schedule"

def Faultless : Prop := ∀ op, a.faults op = none

/-- The attempt adds one row under a number that had none. The row is the one begun until the job
has ended, and then the one ended; meanwhile the job may trim the history. -/
structure Enters (id : Int) : Prop where
  number : a.number = some id
  fresh : a.found.history.rows.find? id = none
  begins : Table.Sets id (some a.begun) a.found.history.rows a.entered.history.rows
  trims : Trims a.entered.history a.left.history
  inProgress : a.left.history.rows.find? id = some a.begun
  ends : Table.Sets id (some a.ended) a.left.history.rows a.after.history.rows

variable {a} {id : Int} {reason : String}

theorem begins_of_fault (h : a.faults (.start a.job.id) = some reason) :
    a.number = none ∧ a.entered = a.found := by
  simp [number, entered, recordStart, RunHistory.start?, h]

theorem begins_of_noFault (h : a.faults (.start a.job.id) = none)
    (hfree : a.found.history.freeId? = some id) :
    a.number = some id ∧
      a.entered = { a.found with history := a.found.history.withRow id a.begun } := by
  simp [number, entered, recordStart, RunHistory.start?, h, RunHistory.start, hfree, begun]

/-- An attempt is entered under a number that is free, or not at all. -/
theorem begins (a : Attempt) : a.number = none ∧ a.entered = a.found ∨
    ∃ id, a.found.history.freeId? = some id ∧ a.number = some id ∧
      a.entered = { a.found with history := a.found.history.withRow id a.begun } := by
  cases h : a.faults (.start a.job.id) with
  | some reason => exact .inl (begins_of_fault h)
  | none =>
      cases hfree : a.found.history.freeId? with
      | some id => exact .inr ⟨id, rfl, begins_of_noFault h hfree⟩
      | none =>
          exact .inl (by simp [number, entered, recordStart, RunHistory.start?, h,
            RunHistory.start, hfree])

theorem after_eq (a : Attempt) : a.after =
    recordFinish a.faults a.number a.exit (measureFinish a.job a.entered.clock a.exit a.left) :=
  rfl

/-- Without an entry for its beginning an attempt has none at all, but the job runs. -/
theorem after_of_start_fault (h : a.faults (.start a.job.id) = some reason) :
    a.after = measureFinish a.job a.found.clock
      (a.job.execute (measureStart a.job a.found)).1
      (a.job.execute (measureStart a.job a.found)).2 := by
  obtain ⟨hnumber, hentered⟩ := begins_of_fault h
  rw [after_eq, hnumber, exit, left, hentered]
  rfl

theorem history_after_of_noFault (hnumber : a.number = some id)
    (h : a.faults (.finish id) = none) :
    a.after.history =
      a.left.history.finish a.left.clock id (Job.status a.exit) (Job.message a.exit) := by
  rw [after_eq, hnumber]
  simp only [recordFinish, RunHistory.finish?, RunHistory.guarded, h]
  rfl

theorem history_after_of_fault (hnumber : a.number = some id)
    (h : a.faults (.finish id) = some reason) : a.after.history = a.left.history := by
  rw [after_eq, hnumber]
  simp only [recordFinish, RunHistory.finish?, RunHistory.guarded, h]
  rfl

theorem trims_left (hjob : a.job.OnlyTrims) : Trims a.entered.history a.left.history :=
  hjob (measureStart a.job a.entered)

theorem begins_sets (hnumber : a.number = some id) :
    a.found.history.freeId? = some id ∧
    Table.Sets id (some a.begun) a.found.history.rows a.entered.history.rows := by
  rcases a.begins with ⟨hnone, _⟩ | ⟨own, hfree, hown, hentered⟩
  · rw [hnone] at hnumber
    cases hnumber
  · obtain rfl : own = id := Option.some.inj (hown.symm.trans hnumber)
    rw [hentered]
    exact ⟨hfree, RunHistory.withRow_sets _ _ _⟩

theorem fresh_of_number (hnumber : a.number = some id) : a.found.history.rows.find? id = none :=
  RunHistory.find?_of_freeId? (begins_sets hnumber).1

/-- The row of the attempt is there when its job has ended, whatever the job has trimmed. -/
theorem left_of_number (hjob : a.job.OnlyTrims) (hnumber : a.number = some id) :
    a.left.history.rows.find? id = some a.begun :=
  (trims_left hjob).spares.running id a.begun (begins_sets hnumber).2.key
    (RunHistory.isRunning_begun _ _ _)

theorem enters (hjob : a.job.OnlyTrims) (hnumber : a.number = some id)
    (hfinish : a.faults (.finish id) = none) : a.Enters id := by
  have hleft := left_of_number hjob hnumber
  refine ⟨hnumber, fresh_of_number hnumber, (begins_sets hnumber).2, trims_left hjob, hleft, ?_⟩
  rw [history_after_of_noFault hnumber hfinish]
  have hends := RunHistory.finish_sets hleft a.left.clock (Job.status a.exit)
    (Job.message a.exit)
  have hrow : { a.begun with
      finishedAt := some a.left.clock.stamp
      status := (Job.status a.exit).text
      message := Job.message a.exit } = a.ended := by
    rw [ended]
    cases a.exit <;> rfl
  rwa [hrow] at hends

theorem Faultless.enters (h : a.Faultless) (hjob : a.job.OnlyTrims)
    (hfree : a.found.history.freeId? = some id) : a.Enters id :=
  Attempt.enters hjob (begins_of_noFault (h _) hfree).1 (h _)

theorem entered_keeps {row : RunRow} (hrow : a.found.history.rows.find? id = some row) :
    a.entered.history.rows.find? id = some row := by
  rcases a.begins with ⟨_, hentered⟩ | ⟨own, _, hown, _⟩
  · rwa [hentered]
  · have hne : id ≠ own := by
      rintro rfl
      rw [fresh_of_number hown] at hrow
      cases hrow
    exact ((begins_sets hown).2.others id hne).trans hrow

theorem after_keeps {row : RunRow} (hne : a.number ≠ some id)
    (hrow : a.left.history.rows.find? id = some row) :
    a.after.history.rows.find? id = some row := by
  cases hnumber : a.number with
  | none =>
      rw [after_eq, hnumber]
      exact hrow
  | some own =>
      have hother : id ≠ own := by
        rintro rfl
        exact hne hnumber
      cases h : a.faults (.finish own) with
      | none =>
          rw [history_after_of_noFault hnumber h]
          have hfinish := RunHistory.finish_changes a.left.history a.left.clock own
            (Job.status a.exit) (Job.message a.exit)
          exact (hfinish.others id fun _ _ => hother).trans hrow
      | some reason => rwa [history_after_of_fault hnumber h]

/-- A run that is in progress outside the attempt stays so. -/
theorem running_kept {row : RunRow} (hjob : a.job.OnlyTrims)
    (hrow : a.found.history.rows.find? id = some row) (hrunning : isRunning row = true) :
    a.after.history.rows.find? id = some row := by
  have hentered := entered_keeps hrow
  have hleft := (trims_left hjob).spares.running id row hentered hrunning
  have hne : a.number ≠ some id := by
    intro hown
    rw [fresh_of_number hown] at hrow
    cases hrow
  exact after_keeps hne hleft

theorem begun_after_of_fault (hjob : a.job.OnlyTrims) (hnumber : a.number = some id)
    (h : a.faults (.finish id) = some reason) :
    a.after.history.rows.find? id = some a.begun := by
  rw [history_after_of_fault hnumber h]
  exact left_of_number hjob hnumber

namespace Enters

theorem ended_after (h : a.Enters id) : a.after.history.rows.find? id = some a.ended := h.ends.key

/-- Any other row that is there afterwards was there before. -/
theorem of_find? {j : Int} {row : RunRow} (h : a.Enters id)
    (hrow : a.after.history.rows.find? j = some row) :
    j = id ∧ row = a.ended ∨ j ≠ id ∧ a.found.history.rows.find? j = some row := by
  rcases h.ends.of_find? hrow with ⟨hj, hown⟩ | ⟨hj, hleft⟩
  · exact .inl ⟨hj, (Option.some.inj hown).symm⟩
  · have hentered := h.trims.spares.old j row hleft
    rw [h.begins.others j hj] at hentered
    exact .inr ⟨hj, hentered⟩

/-- A number past all others is the greatest one afterwards, so the next comes right after. -/
theorem nextId_after (h : a.Enters a.found.history.nextId) :
    a.after.history.nextId = a.found.history.nextId + 1 := by
  apply RunHistory.nextId_of_greatest h.ended_after
  intro j row hrow
  rcases h.of_find? hrow with ⟨rfl, _⟩ | ⟨_, hfound⟩
  · exact Int.le_refl _
  · exact Int.le_of_lt (RunHistory.lt_nextId hfound)

end Enters

theorem isRunning_ended (a : Attempt) : isRunning a.ended = false := by
  unfold ended
  cases a.exit <;> rfl

/-- Without faults the rows afterwards are the one ended and some that were there before, entered
or not. -/
theorem Faultless.of_find? {j : Int} {row : RunRow} (h : a.Faultless) (hjob : a.job.OnlyTrims)
    (hrow : a.after.history.rows.find? j = some row) :
    a.number = some j ∧ row = a.ended ∨ a.found.history.rows.find? j = some row := by
  rcases a.begins with ⟨hnone, hentered⟩ | ⟨id, hfree, hnumber, _⟩
  · rw [after_eq, hnone] at hrow
    have hbefore := (trims_left hjob).spares.old j row hrow
    rw [hentered] at hbefore
    exact .inr hbefore
  · rcases (h.enters hjob hfree).of_find? hrow with ⟨rfl, hended⟩ | ⟨_, hfound⟩
    · exact .inl ⟨hnumber, hended⟩
    · exact .inr hfound

theorem Faultless.running_after (h : a.Faultless) (hjob : a.job.OnlyTrims)
    (hrest : a.found.history.running = []) : a.after.history.running = [] := by
  rw [RunHistory.running_eq_nil_iff] at hrest ⊢
  intro j row hrow
  rcases h.of_find? hjob hrow with ⟨_, rfl⟩ | hfound
  · exact isRunning_ended a
  · exact hrest j row hfound

end Attempt

end Scheduler

end PackageIndex
