import PackageIndex.Proofs.Scheduler.Attempt
import PackageIndex.Proofs.Scheduler.Drive
/-!
The run history over a whole series of attempts. Every attempt begins in the history that the one
before it left. As long as there are numbers past the greatest one, the row of an attempt holds the
greatest number while the attempt lasts: the numbers grow by one from attempt to attempt, though a
job may delete any row that is not in progress.
-/
namespace PackageIndex.Scheduler

open RunHistory (isRunning interrupted maxId)

/-- Attempts from one history to another, each in the history that the one before it left. -/
inductive Course : RunHistory → List Attempt → RunHistory → Prop
  | nil {h : RunHistory} : Course h [] h
  | cons {a : Attempt} {as : List Attempt} {h : RunHistory} :
      Course a.after.history as h → Course a.found.history (a :: as) h

namespace Course

variable {h h' h'' : RunHistory} {as bs : List Attempt}

theorem append (hc : Course h as h') (hc' : Course h' bs h'') : Course h (as ++ bs) h'' := by
  induction hc with
  | nil => exact hc'
  | cons _ ih => exact .cons (ih hc')

theorem faultless_enters (hc : Course h as h') (has : ∀ a ∈ as, a.Faultless ∧ a.job.OnlyTrims)
    {n : Nat} {a : Attempt} (ha : as[n]? = some a) (hroom : h.nextId + n ≤ maxId) :
    a.found.history.nextId = h.nextId + n ∧ a.Enters (h.nextId + n) := by
  induction hc generalizing n with
  | nil => simp at ha
  | @cons b as h' _ ih =>
      rw [List.forall_mem_cons] at has
      have hle : b.found.history.nextId ≤ maxId := by omega
      have hb : b.Enters b.found.history.nextId :=
        has.1.1.enters has.1.2 (RunHistory.freeId?_of_le hle)
      cases n with
      | zero =>
          obtain rfl : b = a := by simpa using ha
          simpa using hb
      | succ n =>
          have hrest := ih has.2 (by simpa using ha)
          rw [hb.nextId_after] at hrest
          rw [Int.natCast_succ, Int.add_comm (n : Int) 1, ← Int.add_assoc] at hroom ⊢
          exact hrest hroom

theorem numbers_increase (hc : Course h as h') (has : ∀ a ∈ as, a.Faultless ∧ a.job.OnlyTrims)
    (hroom : h.nextId + as.length ≤ maxId + 1) :
    as.Pairwise fun a b => ∀ i j, a.number = some i → b.number = some j → i < j := by
  rw [List.pairwise_iff_getElem]
  intro m n hm hn hlt i j hi hj
  have hfirst := (hc.faultless_enters has (List.getElem?_eq_getElem hm) (by omega)).2.number
  have hsecond := (hc.faultless_enters has (List.getElem?_eq_getElem hn) (by omega)).2.number
  rw [hi, Option.some.injEq] at hfirst
  rw [hj, Option.some.injEq] at hsecond
  omega

theorem of_find? (hc : Course h as h')
    (has : ∀ a ∈ as, a.Faultless ∧ a.job.OnlyTrims) {id : Int} {row : RunRow}
    (hrow : h'.rows.find? id = some row) :
    h.rows.find? id = some row ∨ ∃ a ∈ as, a.number = some id ∧ row = a.ended := by
  induction hc with
  | nil => exact .inl hrow
  | @cons a as h' _ ih =>
      rw [List.forall_mem_cons] at has
      rcases ih has.2 hrow with hafter | ⟨b, hb, hnumber, hended⟩
      · rcases has.1.1.of_find? has.1.2 hafter with ⟨hnumber, hended⟩ | hfound
        · exact .inr ⟨a, List.mem_cons_self, hnumber, hended⟩
        · exact .inl hfound
      · exact .inr ⟨b, List.mem_cons_of_mem a hb, hnumber, hended⟩

theorem running_eq_nil (hc : Course h as h')
    (has : ∀ a ∈ as, a.Faultless ∧ a.job.OnlyTrims) (hrest : h.running = []) :
    h'.running = [] := by
  induction hc with
  | nil => exact hrest
  | cons _ ih =>
      rw [List.forall_mem_cons] at has
      exact ih has.2 (has.1.1.running_after has.1.2 hrest)

theorem running_kept (hc : Course h as h') (has : ∀ a ∈ as, a.job.OnlyTrims) {id : Int}
    {row : RunRow} (hrow : h.rows.find? id = some row) (hrunning : isRunning row = true) :
    h'.rows.find? id = some row := by
  induction hc with
  | nil => exact hrow
  | cons _ ih =>
      rw [List.forall_mem_cons] at has
      exact ih has.2 (Attempt.running_kept has.1 hrow hrunning)

/-- An attempt whose end could not be entered stays one in progress to the end of the course. -/
theorem begun_kept (hc : Course h as h') (has : ∀ a ∈ as, a.job.OnlyTrims) {a : Attempt}
    (ha : a ∈ as) {id : Int} {reason : String} (hnumber : a.number = some id)
    (hfault : a.faults (.finish id) = some reason) :
    h'.rows.find? id = some a.begun := by
  induction hc with
  | nil => cases ha
  | cons hrest ih =>
      rw [List.forall_mem_cons] at has
      rcases List.mem_cons.mp ha with rfl | hlater
      · exact hrest.running_kept has.2 (Attempt.begun_after_of_fault has.1 hnumber hfault)
          (RunHistory.isRunning_begun _ _ _)
      · exact ih has.2 hlater

end Course

/-- The attempts of the jobs at some positions, one after the other. -/
def passes (faultsAt : Nat → HistoryFaults) (jobs : List Job) : List Nat → World → List Attempt
  | [], _ => []
  | i :: rest, w =>
    match jobs[i]? with
    | some job => ⟨job, faultsAt i, w⟩ :: passes faultsAt jobs rest (attempt (faultsAt i) job w)
    | none => passes faultsAt jobs rest w

theorem course_passes (faultsAt : Nat → HistoryFaults) (jobs : List Job) (positions : List Nat)
    (w : World) :
    Course w.history (passes faultsAt jobs positions w)
      (attempts faultsAt jobs positions w).history := by
  induction positions generalizing w with
  | nil => exact .nil
  | cons i rest ih =>
      rw [passes, attempts, List.foldl_cons]
      cases hjob : jobs[i]? with
      | none => exact ih w
      | some job => exact Course.cons (a := ⟨job, faultsAt i, w⟩) (ih _)

section

variable {faultsAt : Nat → HistoryFaults} {jobs : List Job}

theorem mem_passes {positions : List Nat} {w : World} {a : Attempt}
    (ha : a ∈ passes faultsAt jobs positions w) : a.job ∈ jobs ∧ ∃ i, a.faults = faultsAt i := by
  induction positions generalizing w with
  | nil => cases ha
  | cons i rest ih =>
      rw [passes] at ha
      cases hjob : jobs[i]? with
      | none =>
          rw [hjob] at ha
          exact ih ha
      | some job =>
          rw [hjob] at ha
          rcases List.mem_cons.mp ha with rfl | hrest
          · exact ⟨List.mem_of_getElem? hjob, i, rfl⟩
          · exact ih hrest

theorem jobs_passes (positions : List Nat) (w : World) :
    (passes faultsAt jobs positions w).map (·.job) = positions.filterMap (jobs[·]?) := by
  induction positions generalizing w with
  | nil => rfl
  | cons i rest ih =>
      rw [passes, List.filterMap_cons]
      cases hjob : jobs[i]? with
      | none => exact ih w
      | some job => rw [List.map_cons, ih]

end

namespace Drive

/-- The attempts of the ticks before a number, in order. -/
def log (d : Drive) : Nat → List Attempt
  | 0 => []
  | k + 1 => d.log k ++ passes (d.turns k).faults d.jobs (d.attempted k) (d.found k)

/-- Jobs that do no more to the history than trim it, and ticks between which nobody else touches
it. -/
structure Undisturbed (d : Drive) : Prop where
  jobs : ∀ job ∈ d.jobs, job.OnlyTrims
  between : ∀ k w, ((d.turns k).before w).history = w.history

def Faultless (d : Drive) : Prop := ∀ k i op, (d.turns k).faults i op = none

variable {d : Drive} {k m : Nat} {a : Attempt}

theorem mem_log (ha : a ∈ d.log k) : a.job ∈ d.jobs ∧ ∃ j i, a.faults = (d.turns j).faults i := by
  induction k with
  | zero => cases ha
  | succ k ih =>
      rcases List.mem_append.mp ha with hold | hnew
      · exact ih hold
      · obtain ⟨hjob, i, hfaults⟩ := mem_passes hnew
        exact ⟨hjob, k, i, hfaults⟩

theorem mem_log_of_le (hle : k ≤ m) (ha : a ∈ d.log k) : a ∈ d.log m := by
  induction hle with
  | refl => exact ha
  | step _ ih => exact List.mem_append_left _ ih

theorem Undisturbed.course (h : d.Undisturbed) (k : Nat) :
    Course d.world.history (d.log k) (d.state k).2.history := by
  induction k with
  | zero => exact .nil
  | succ k ih =>
      apply ih.append
      have htick := course_passes (d.turns k).faults d.jobs (d.attempted k) (d.found k)
      rw [found, h.between] at htick
      rwa [d.world_succ]

theorem Undisturbed.onlyTrims (h : d.Undisturbed) : ∀ a ∈ d.log k, a.job.OnlyTrims :=
  fun a ha => h.jobs a.job (mem_log ha).1

theorem Faultless.log (h : d.Faultless) : ∀ a ∈ d.log k, a.Faultless := by
  intro a ha op
  obtain ⟨_, j, i, hfaults⟩ := mem_log ha
  rw [hfaults]
  exact h j i op

end Drive

theorem history_recover {faults : HistoryFaults} (h : faults .markStale = none) (w : World) :
    (recover faults w).history = (w.history.markStale w.clock).2 := by
  simp [recover, RunHistory.markStale?, RunHistory.guarded, h]

/-- The loop makes attempts of its own jobs only. -/
theorem course_loop (faults : HistoryFaults) (pauses : List Span) (s : Scheduler) (w : World) :
    ∃ as, Course w.history as (loop faults pauses s w).2.history ∧
      ∀ a ∈ as, a.faults = faults ∧ a.job ∈ s.entries.map (·.job) := by
  induction pauses generalizing s w with
  | nil => exact ⟨[], .nil, fun _ ha => nomatch ha⟩
  | cons pause rest ih =>
      let paused : World := { w with clock := w.clock.after pause }
      let t := tickFrom (fun _ => faults) paused.clock 0 s.entries paused
      let positions := duePositions paused.clock 0 (s.entries.map (·.cadence))
      obtain ⟨as, hcourse, has⟩ := ih { s with entries := t.entries } t.world
      have hjobs : t.entries.map (·.job) = s.entries.map (·.job) :=
        tickFrom_jobs _ _ 0 s.entries paused
      have htick := course_passes (fun _ => faults) (s.entries.map (·.job)) positions paused
      rw [← tickFrom_world (jobsFrom_zero s.entries) paused] at htick
      refine ⟨_, htick.append hcourse, fun a ha => ?_⟩
      rcases List.mem_append.mp ha with hnow | hlater
      · obtain ⟨hjob, _, hfaults⟩ := mem_passes hnow
        exact ⟨hfaults, hjob⟩
      · rw [hjobs] at has
        exact has a hlater

theorem loop_append (faults : HistoryFaults) (earlier later : List Span) (s : Scheduler)
    (w : World) : loop faults (earlier ++ later) s w =
      loop faults later (loop faults earlier s w).1 (loop faults earlier s w).2 := by
  induction earlier generalizing s w with
  | nil => rfl
  | cons pause rest ih => exact ih _ _

def noFault : HistoryFaults := fun _ => none

theorem running_run {s : Scheduler} (hjobs : ∀ e ∈ s.entries, e.job.OnlyTrims)
    (pauses : List Span) (w : World) : (run noFault pauses s w).2.history.running = [] := by
  obtain ⟨as, hcourse, has⟩ := course_loop noFault pauses s (recover noFault w)
  apply hcourse.running_eq_nil
  · intro a ha
    obtain ⟨hfaults, hjob⟩ := has a ha
    obtain ⟨e, he, heq⟩ := List.mem_map.mp hjob
    exact ⟨fun op => by rw [hfaults, noFault], heq ▸ hjobs e he⟩
  · rw [history_recover rfl]
    exact RunHistory.running_markStale _ _

namespace Drive

variable {d : Drive}

/-- The log has the attempts of all ticks, and nothing else touches the history. -/
structure Logged (d : Drive) (k : Nat) : Prop where
  course : Course d.world.history (d.log k) (d.state k).2.history
  jobs : (d.log (k + 1)).map (·.job) =
    (d.log k).map (·.job) ++ (d.attempted k).filterMap (d.jobs[·]?)

/-- Without faults every attempt has a row under a number of its own, from its beginning on. The
numbers grow by one from attempt to attempt, as long as there are numbers past the greatest one;
afterwards any free one is as good. Besides the rows of attempts that have ended there are only
those of the beginning. -/
structure Entered (d : Drive) (k : Nat) : Prop where
  enters : ∀ a ∈ d.log k, ∀ id, a.found.history.freeId? = some id → a.Enters id
  numbers : ∀ (n : Nat) (a : Attempt), (d.log k)[n]? = some a →
    d.world.history.nextId + n ≤ maxId → a.Enters (d.world.history.nextId + n) ∧
      ∀ j row, a.found.history.rows.find? j = some row → j < d.world.history.nextId + n
  increase : d.world.history.nextId + (d.log k).length ≤ maxId + 1 →
    (d.log k).Pairwise fun a b => ∀ i j, a.number = some i → b.number = some j → i < j
  rows : ∀ id row, (d.state k).2.history.rows.find? id = some row →
    d.world.history.rows.find? id = some row ∨
      ∃ a ∈ d.log k, a.number = some id ∧ row = a.ended
  idle : d.world.history.running = [] → (d.state k).2.history.running = []

/-- Any operation may fail. Runs that others left in progress stay so; an attempt whose beginning
cannot be entered is made all the same, and one whose end cannot be entered stays one in progress
until a scheduler starts. -/
structure Withstands (d : Drive) (k : Nat) : Prop where
  others : ∀ id row, d.world.history.rows.find? id = some row → isRunning row = true →
    (d.state k).2.history.rows.find? id = some row
  notBegun : ∀ a ∈ d.log k, ∀ reason, a.faults (.start a.job.id) = some reason →
    a.number = none ∧ a.entered = a.found ∧
    a.after = measureFinish a.job a.found.clock
      (a.job.execute (measureStart a.job a.found)).1
      (a.job.execute (measureStart a.job a.found)).2
  notEnded : ∀ a ∈ d.log k, ∀ id reason, a.number = some id →
    a.faults (.finish id) = some reason → ∀ m, k ≤ m →
      (d.state m).2.history.rows.find? id = some a.begun ∧
      ∀ w faults, w.history = (d.state m).2.history → faults .markStale = none →
        (recover faults w).history.rows.find? id = some (interrupted w.clock a.begun)

theorem Undisturbed.logged (h : d.Undisturbed) (k : Nat) : d.Logged k where
  course := h.course k
  jobs := by rw [log, List.map_append, jobs_passes]

theorem Undisturbed.entered (h : d.Undisturbed) (hfaultless : d.Faultless) (k : Nat) :
    d.Entered k := by
  have has : ∀ a ∈ d.log k, a.Faultless ∧ a.job.OnlyTrims :=
    fun a ha => ⟨hfaultless.log a ha, h.onlyTrims a ha⟩
  have hcourse := h.course k
  refine ⟨fun a ha id => (has a ha).1.enters (has a ha).2, fun n a ha hroom => ?_,
    hcourse.numbers_increase has, fun id row => hcourse.of_find? has, hcourse.running_eq_nil has⟩
  obtain ⟨hnext, henters⟩ := hcourse.faultless_enters has ha hroom
  exact ⟨henters, fun j row hrow => hnext ▸ RunHistory.lt_nextId hrow⟩

theorem Undisturbed.withstands (h : d.Undisturbed) (k : Nat) : d.Withstands k where
  others := fun _ _ => (h.course k).running_kept h.onlyTrims
  notBegun := by
    intro a _ reason hfault
    obtain ⟨hnumber, hentered⟩ := Attempt.begins_of_fault hfault
    exact ⟨hnumber, hentered, Attempt.after_of_start_fault hfault⟩
  notEnded := by
    intro a ha id reason hnumber hfault m hle
    have hkept := (h.course m).begun_kept h.onlyTrims (mem_log_of_le hle ha) hnumber hfault
    refine ⟨hkept, fun w faults hw hnone => ?_⟩
    rw [history_recover hnone, hw]
    exact (RunHistory.markStale_changes _ w.clock).changed id a.begun hkept
      (RunHistory.isRunning_begun _ _ _)

end Drive

/-- A start turns exactly the runs in progress into failed ones. So none is in progress when the
loop has made some of its pauses, and it goes on from there. -/
structure Restarts (s : Scheduler) (w : World) : Prop where
  recovers : Table.Changes (fun _ row => isRunning row = true)
    (fun _ row => interrupted w.clock row) w.history.rows (recover noFault w).history.rows
  idle : ∀ pauses, (run noFault pauses s w).2.history.running = []
  goesOn : ∀ earlier later, run noFault (earlier ++ later) s w =
    loop noFault later (run noFault earlier s w).1 (run noFault earlier s w).2

theorem restarts {s : Scheduler} (hjobs : ∀ e ∈ s.entries, e.job.OnlyTrims) (w : World) :
    s.Restarts w where
  recovers := by
    rw [history_recover rfl]
    exact RunHistory.markStale_changes _ _
  idle := fun pauses => running_run hjobs pauses w
  goesOn := fun earlier later => loop_append noFault earlier later s _

/-- Every attempt has a row under a number of its own, from its beginning on; the jobs of the
program do not more to the history than trim it. Where the beginning of an attempt cannot be
entered it runs all the same, and where its end cannot, the row waits for the next start of the
scheduler. -/
theorem attempts_are_entered (d : Drive) (h : d.Undisturbed) :
    (∀ k, d.Logged k) ∧ (d.Faultless → ∀ k, d.Entered k) ∧ (∀ k, d.Withstands k) ∧
    (∀ (s : Scheduler) (w : World), (∀ e ∈ s.entries, e.job.OnlyTrims) → s.Restarts w) ∧
    ∀ job : Job, job.OfProgram → job.OnlyTrims :=
  ⟨h.logged, h.entered, h.withstands, fun _ w hjobs => restarts hjobs w,
    fun _ hjob => hjob.onlyTrims⟩

/-- Two jobs once a second: one deletes all finished runs, the other crashes and takes its time.
Another process has left a run in progress. -/
def tidyAndCrash : Drive where
  jobs :=
    [Retention.job { intervalSecs := 1, retentionDays := 0 } noFault,
     { id := "crash", name := "", description := "", interval := .ofSeconds 1
       execute := fun w => (.error (.crashed .other), { w with clock := ⟨100, 0⟩ }) }]
  world :=
    { clock := .epoch
      history := { rows := Table.ofList [(7, RunHistory.begun .epoch "crawl" trigger)] } }
  turns := fun k => { now := if k = 0 then .epoch else ⟨200, 0⟩, covered := by split <;> decide }

theorem tidyAndCrash_undisturbed : tidyAndCrash.Undisturbed where
  jobs := by
    intro job hjob
    simp only [tidyAndCrash, List.mem_cons, List.not_mem_nil, or_false] at hjob
    rcases hjob with rfl | rfl
    · exact Retention.job_onlyTrims _ _
    · exact fun _ => .nothing
  between := fun _ _ => rfl

/-- The second tick deletes the rows 8 and 9 of the first one, and its own numbers are new
nevertheless. -/
theorem cleanup_gets_a_new_number :
    (tidyAndCrash.state 2).2.history.rows.keys = [7, 10, 11] ∧
    ∃ a, (tidyAndCrash.log 2)[2]? = some a ∧ a.job.id = "job_history_cleanup" ∧ a.Enters 10 :=
  ⟨by decide +kernel, _, rfl, rfl,
    (((attempts_are_entered tidyAndCrash tidyAndCrash_undisturbed).2.1 (fun _ _ _ => rfl)
      2).numbers 2 _ rfl (by decide +kernel)).1⟩

/-- A history that has one number left past its greatest one, and two ticks with a job to run. -/
def almostFull : Drive where
  jobs :=
    [{ id := "crawl", name := "", description := "", interval := .ofSeconds 1
       execute := fun w => (.ok (), w) }]
  world :=
    { clock := .epoch
      history := { rows := Table.ofList [(maxId - 1, RunHistory.begun .epoch "cleanup" trigger)] } }
  turns := fun k => { now := if k = 0 then .epoch else ⟨1000, 0⟩, covered := by split <;> decide }

/-- The second attempt has to do with a number that is drawn. -/
theorem greatest_number_is_no_bound :
    ¬ ∀ (d : Drive) (k : Nat), d.Undisturbed → d.Faultless →
      (d.log k).Pairwise fun a b => ∀ i j, a.number = some i → b.number = some j → i < j := by
  intro h
  have hundisturbed : almostFull.Undisturbed := by
    refine ⟨fun job hjob => ?_, fun _ _ => rfl⟩
    obtain rfl := List.mem_singleton.mp hjob
    exact fun _ => .nothing
  have hnumbers : (almostFull.log 2).map (·.number) = [some (maxId : Int), some 1] := by
    decide +kernel
  have hincrease : ((almostFull.log 2).map (·.number)).Pairwise fun m n =>
      ∀ i j, m = some i → n = some j → i < j :=
    List.pairwise_map.mpr (h almostFull 2 hundisturbed fun _ _ _ => rfl)
  rw [hnumbers] at hincrease
  have hless := (List.pairwise_cons.mp hincrease).1 _ List.mem_cons_self _ _ rfl rfl
  exact absurd hless (by decide)

end PackageIndex.Scheduler
