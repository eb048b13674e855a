import PackageIndex.Scheduler
import PackageIndex.Proofs.Cadence
/-!
What one tick does. The entries that are attempted are those due when the tick begins, since no
attempt touches an entry other than its own: the tick reads no clock to choose them. The world
goes through their attempts in order, and each of them is scheduled from the clock that its own
attempt leaves.
-/
namespace PackageIndex.Scheduler

/-- The positions of the cadences that are due, counted from a number on. -/
def duePositions (now : Instant) (n : Nat) (cadences : List Cadence) : List Nat :=
  ((cadences.zipIdx n).filter fun r => r.1.isDue now).map Prod.snd

/-- The world after attempts of the jobs at some positions. -/
def attempts (faultsAt : Nat → HistoryFaults) (jobs : List Job) (positions : List Nat)
    (w : World) : World :=
  positions.foldl (fun w i => match jobs[i]? with
    | some job => attempt (faultsAt i) job w
    | none => w) w

/-- Two worlds differ in the books of the scheduler only: in the run history and the metrics. -/
structure SameButBooks (w w' : World) : Prop where
  clock : w'.clock = w.clock
  catalog : w'.catalog = w.catalog
  inquiries : w'.inquiries = w.inquiries

/-- The jobs at the listed positions are executed one after the other, each of them once. A job
finds the world as the one before it has left it, but for the books, and with its position stands
the clock that it leaves. -/
inductive Executes (jobs : List Job) : List (Nat × Instant) → World → World → Prop
  | nil {w : World} : Executes jobs [] w w
  | cons {i : Nat} {job : Job} {found entered left after w : World}
      {exit : Except Interruption Unit} {rest : List (Nat × Instant)} :
      jobs[i]? = some job → SameButBooks found entered → job.execute entered = (exit, left) →
      SameButBooks left after → Executes jobs rest after w →
      Executes jobs ((i, left.clock) :: rest) found w

theorem duePositions_pairwise (now : Instant) (n : Nat) (cadences : List Cadence) :
    (duePositions now n cadences).Pairwise (· < ·) := by
  have hsub : (duePositions now n cadences).Sublist ((cadences.zipIdx n).map Prod.snd) :=
    List.filter_sublist.map Prod.snd
  rw [List.zipIdx_map_snd] at hsub
  exact List.Pairwise.sublist hsub List.pairwise_lt_range'

theorem mem_duePositions {now : Instant} {n i : Nat} {cadences : List Cadence} :
    i ∈ duePositions now n cadences ↔
      n ≤ i ∧ ∃ c, cadences[i - n]? = some c ∧ c.isDue now = true := by
  simp only [duePositions, List.mem_map, List.mem_filter, Prod.exists, exists_eq_right]
  constructor
  · rintro ⟨c, hmem, hdue⟩
    obtain ⟨hle, hc⟩ := List.mk_mem_zipIdx_iff_le_and_getElem?_sub.mp hmem
    exact ⟨hle, c, hc, hdue⟩
  · rintro ⟨hle, c, hc, hdue⟩
    exact ⟨c, List.mk_mem_zipIdx_iff_le_and_getElem?_sub.mpr ⟨hle, hc⟩, hdue⟩

theorem duePositions_cons (now : Instant) (n : Nat) (c : Cadence) (cadences : List Cadence) :
    duePositions now n (c :: cadences) =
      if c.isDue now then n :: duePositions now (n + 1) cadences
      else duePositions now (n + 1) cadences := by
  simp only [duePositions, List.zipIdx_cons, List.filter_cons]
  split <;> rfl

/-- All positions counted from a number on lie beyond a smaller one. -/
theorem filter_duePositions_of_lt {now : Instant} {n i : Nat} (cadences : List Cadence)
    (h : i < n) : (duePositions now n cadences).filter (· ≤ i) = [] := by
  rw [List.filter_eq_nil_iff]
  intro j hj
  have hle : n ≤ j := (mem_duePositions.mp hj).1
  simpa using Nat.lt_of_lt_of_le h hle

variable (faultsAt : Nat → HistoryFaults) (now : Instant)

theorem tickFrom_attempted (n : Nat) (entries : List Scheduled) (w : World) :
    (tickFrom faultsAt now n entries w).attempted =
      duePositions now n (entries.map (·.cadence)) := by
  induction entries generalizing n w with
  | nil => rfl
  | cons e rest ih =>
      rw [List.map_cons, duePositions_cons, tickFrom]
      split
      · simp only [ih]
      · simp only [ih]

/-- Where nothing is due a tick leaves everything as it is. -/
theorem tickFrom_of_not_due {entries : List Scheduled}
    (h : ∀ e ∈ entries, e.cadence.isDue now = false) (n : Nat) (w : World) :
    tickFrom faultsAt now n entries w = ⟨entries, [], w⟩ := by
  induction entries generalizing n with
  | nil => rfl
  | cons e rest ih =>
      rw [List.forall_mem_cons] at h
      simp only [tickFrom, h.1, Bool.false_eq_true, ite_false, ih h.2]

theorem tickFrom_jobs (n : Nat) (entries : List Scheduled) (w : World) :
    (tickFrom faultsAt now n entries w).entries.map (·.job) = entries.map (·.job) := by
  induction entries generalizing n w with
  | nil => rfl
  | cons e rest ih =>
      rw [tickFrom]
      split
      · simp only [List.map_cons, ih]
      · simp only [List.map_cons, ih]

/-- The jobs from a position on are those of some entries. -/
def JobsFrom (jobs : List Job) (n : Nat) (entries : List Scheduled) : Prop :=
  ∀ i, jobs[n + i]? = entries[i]?.map (·.job)

variable {faultsAt now}

theorem clock_recordFinish (faults : HistoryFaults) (id? : Option Int)
    (exit : Except Interruption Unit) (w : World) :
    (recordFinish faults id? exit w).clock = w.clock := by
  cases id? with
  | none => rfl
  | some id =>
      simp only [recordFinish]
      split <;> rfl

/-- Nothing but the job moves the clock during an attempt. -/
theorem clock_attempt (faults : HistoryFaults) (job : Job) (w : World) :
    (attempt faults job w).clock =
      (job.execute (measureStart job (recordStart faults job w).2)).2.clock :=
  clock_recordFinish _ _ _ _

theorem sameButBooks_entered (faults : HistoryFaults) (job : Job) (w : World) :
    SameButBooks w (measureStart job (recordStart faults job w).2) := by
  rw [recordStart]
  split <;> exact ⟨rfl, rfl, rfl⟩

theorem sameButBooks_recordFinish (faults : HistoryFaults) (id? : Option Int)
    (exit : Except Interruption Unit) (w : World) :
    SameButBooks w (recordFinish faults id? exit w) := by
  cases id? with
  | none => exact ⟨rfl, rfl, rfl⟩
  | some id =>
      rw [recordFinish]
      split <;> exact ⟨rfl, rfl, rfl⟩

/-- An attempt executes its job once, and keeps the books before and after it. -/
theorem Executes.cons_attempt {jobs : List Job} {i : Nat} {job : Job} {w w' : World}
    {rest : List (Nat × Instant)} (faults : HistoryFaults) (hjob : jobs[i]? = some job)
    (hrest : Executes jobs rest (attempt faults job w) w') :
    Executes jobs ((i, (attempt faults job w).clock) :: rest) w w' := by
  rw [clock_attempt]
  refine .cons hjob (sameButBooks_entered faults job w) rfl ?_ hrest
  obtain ⟨hclock, hcatalog, hinquiries⟩ := sameButBooks_recordFinish faults
    (recordStart faults job w).1 (job.execute (measureStart job (recordStart faults job w).2)).1
    (measureFinish job (recordStart faults job w).2.clock
      (job.execute (measureStart job (recordStart faults job w).2)).1
      (job.execute (measureStart job (recordStart faults job w).2)).2)
  exact ⟨hclock, hcatalog, hinquiries⟩

theorem JobsFrom.head {jobs : List Job} {n : Nat} {e : Scheduled} {rest : List Scheduled}
    (h : JobsFrom jobs n (e :: rest)) : jobs[n]? = some e.job := by
  simpa using h 0

theorem JobsFrom.tail {jobs : List Job} {n : Nat} {e : Scheduled} {rest : List Scheduled}
    (h : JobsFrom jobs n (e :: rest)) : JobsFrom jobs (n + 1) rest := by
  intro i
  rw [Nat.add_assoc, Nat.add_comm 1 i]
  simpa using h (i + 1)

theorem attempts_cons {jobs : List Job} {i : Nat} {job : Job} (hjob : jobs[i]? = some job)
    (positions : List Nat) (w : World) :
    attempts faultsAt jobs (i :: positions) w =
      attempts faultsAt jobs positions (attempt (faultsAt i) job w) := by
  simp only [attempts, List.foldl_cons, hjob]

/-- The clock after the attempts up to a position is the one that the job there leaves. -/
theorem clock_attempts_through {jobs : List Job} {positions : List Nat} {i : Nat} {job : Job}
    (hpositions : positions.Pairwise (· < ·)) (hi : i ∈ positions) (hjob : jobs[i]? = some job)
    (w : World) : ∃ w', (attempts faultsAt jobs (positions.filter (· ≤ i)) w).clock =
      (job.execute w').2.clock := by
  induction positions generalizing w with
  | nil => cases hi
  | cons p rest ih =>
      rw [List.pairwise_cons] at hpositions
      rcases List.mem_cons.mp hi with rfl | hrest
      · have hnone : rest.filter (· ≤ i) = [] := by
          rw [List.filter_eq_nil_iff]
          intro j hj
          simpa using hpositions.1 j hj
        rw [List.filter_cons_of_pos (by simp), hnone, attempts_cons hjob]
        exact ⟨_, clock_attempt _ _ _⟩
      · have hlt : p < i := hpositions.1 i hrest
        rw [List.filter_cons_of_pos (by simpa using Nat.le_of_lt hlt)]
        exact ih hpositions.2 hrest _

/-- Attempts in the order of their positions execute the jobs there. -/
theorem executes_attempts {jobs : List Job} {positions : List Nat}
    (hpositions : positions.Pairwise (· < ·)) (hjobs : ∀ i ∈ positions, i < jobs.length)
    (w : World) :
    Executes jobs
      (positions.map fun i => (i, (attempts faultsAt jobs (positions.filter (· ≤ i)) w).clock)) w
      (attempts faultsAt jobs positions w) := by
  induction positions generalizing w with
  | nil => exact .nil
  | cons p rest ih =>
      rw [List.pairwise_cons] at hpositions
      rw [List.forall_mem_cons] at hjobs
      have hjob : jobs[p]? = some jobs[p] := List.getElem?_eq_getElem hjobs.1
      have hhead : (p :: rest).filter (· ≤ p) = [p] := by
        have hnone : rest.filter (· ≤ p) = [] := by
          rw [List.filter_eq_nil_iff]
          intro j hj
          simpa using hpositions.1 j hj
        rw [List.filter_cons_of_pos (by simp), hnone]
      have hlater : ∀ i ∈ rest, attempts faultsAt jobs ((p :: rest).filter (· ≤ i)) w =
          attempts faultsAt jobs (rest.filter (· ≤ i)) (attempt (faultsAt p) jobs[p] w) := by
        intro i hi
        have hle : p ≤ i := Nat.le_of_lt (hpositions.1 i hi)
        rw [List.filter_cons_of_pos (by simpa using hle), attempts_cons hjob]
      rw [List.map_cons, hhead, attempts_cons hjob, attempts_cons hjob,
        List.map_congr_left fun i hi => by rw [hlater i hi]]
      exact .cons_attempt (faultsAt p) hjob (ih hpositions.2 hjobs.2 _)

theorem tickFrom_world {jobs : List Job} {n : Nat} {entries : List Scheduled}
    (hjobs : JobsFrom jobs n entries) (w : World) :
    (tickFrom faultsAt now n entries w).world =
      attempts faultsAt jobs (duePositions now n (entries.map (·.cadence))) w := by
  induction entries generalizing n w with
  | nil => rfl
  | cons e rest ih =>
      rw [List.map_cons, duePositions_cons, tickFrom]
      split
      · rw [attempts_cons hjobs.head]
        exact ih hjobs.tail _
      · exact ih hjobs.tail w

/-- The entry at a position after a tick: an entry that is due is scheduled from the clock that
the attempts up to its own leave. -/
theorem tickFrom_entry {jobs : List Job} {n : Nat} {entries : List Scheduled}
    (hjobs : JobsFrom jobs n entries) (w : World) (i : Nat) :
    (tickFrom faultsAt now n entries w).entries[i]? = entries[i]?.map fun e =>
      if e.cadence.isDue now then
        { e with cadence := e.cadence.advance (max now (attempts faultsAt jobs
          ((duePositions now n (entries.map (·.cadence))).filter (· ≤ n + i)) w).clock) }
      else e := by
  induction entries generalizing n w i with
  | nil => rfl
  | cons e rest ih =>
      have hshift (i : Nat) : n + 1 + i = n + (i + 1) := by omega
      rw [List.map_cons, duePositions_cons, tickFrom]
      cases hdue : e.cadence.isDue now with
      | true =>
          have hhead (i : Nat) (w : World) : attempts faultsAt jobs ((n :: duePositions now (n + 1)
              (rest.map (·.cadence))).filter (· ≤ n + i)) w =
              attempts faultsAt jobs ((duePositions now (n + 1)
                (rest.map (·.cadence))).filter (· ≤ n + i)) (attempt (faultsAt n) e.job w) := by
            rw [List.filter_cons_of_pos (by simp), attempts_cons hjobs.head]
          cases i with
          | zero =>
              simp only [ite_true, List.getElem?_cons_zero, Option.map_some, hdue, hhead]
              rw [filter_duePositions_of_lt _ (by omega)]
              rfl
          | succ i =>
              simp only [ite_true, List.getElem?_cons_succ, ih hjobs.tail, hhead, hshift]
      | false =>
          cases i with
          | zero => simp [hdue]
          | succ i =>
              simp only [Bool.false_eq_true, ite_false, List.getElem?_cons_succ, ih hjobs.tail,
                hshift]

end PackageIndex.Scheduler
