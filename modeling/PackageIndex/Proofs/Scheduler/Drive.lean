import PackageIndex.Proofs.Scheduler.Tick
/-!
A scheduler driven by ticks at any times, one after the other. Between the ticks the world may
become any other; during a tick its jobs do to it what they do, so the clock reads whatever they
leave. The cadence of an entry changes with its own attempts only, and that is enough to tell
from the past which entries every tick attempts.
-/
namespace PackageIndex.Scheduler

/-- A tick and what goes before it. -/
structure Turn where
  now : Instant
  /-- The calendar covers the time of the tick. -/
  covered : now.Representable
  faults : Nat → HistoryFaults := fun _ _ => none
  /-- What becomes of the world before the tick. -/
  before : World → World := id

/-- Jobs that are registered in a world, and then any ticks. -/
structure Drive where
  jobs : List Job
  world : World
  turns : Nat → Turn

namespace Drive

variable (d : Drive) (k i : Nat)

def now : Instant := (d.turns k).now

/-- The scheduler and the world that the ticks before a number leave. -/
def state : Nat → Scheduler × World
  | 0 => (d.jobs.foldl register {}, d.world)
  | k + 1 =>
    let (s, _, w) := (state k).1.tick (d.turns k).faults (d.now k) ((d.turns k).before (state k).2)
    (s, w)

def found : World := (d.turns k).before (d.state k).2

/-- The positions of the entries that a tick attempts. -/
def attempted : List Nat :=
  (tickFrom (d.turns k).faults (d.now k) 0 (d.state k).1.entries (d.found k)).attempted

/-- The number that a tick returns. -/
def count : Nat := ((d.state k).1.tick (d.turns k).faults (d.now k) (d.found k)).2.1

def cadences : List Cadence := (d.state k).1.entries.map (·.cadence)

/-- When the entry at a position may run next, as a tick finds it. -/
def nextEligible : Option Instant := (d.cadences k)[i]?.bind (·.nextEligible)

/-- What the clock reads right after a tick's attempt of the entry at a position. -/
def clockAfter : Instant :=
  (attempts (d.turns k).faults d.jobs ((d.attempted k).filter (· ≤ i)) (d.found k)).clock

end Drive

theorem entries_registered (jobs : List Job) (s : Scheduler) :
    (jobs.foldl register s).entries =
      s.entries ++ jobs.map fun job => { job, cadence := { interval := job.interval } } := by
  induction jobs generalizing s with
  | nil => simp
  | cons job rest ih => simp [ih, register]

theorem jobsFrom_zero (entries : List Scheduled) :
    JobsFrom (entries.map (·.job)) 0 entries := by
  intro i
  rw [Nat.zero_add, List.getElem?_map]

namespace Drive

variable {d : Drive} {k i : Nat}

theorem state_succ (d : Drive) (k : Nat) :
    (d.state (k + 1)).1.entries =
      (tickFrom (d.turns k).faults (d.now k) 0 (d.state k).1.entries (d.found k)).entries ∧
    (d.state (k + 1)).2 =
      (tickFrom (d.turns k).faults (d.now k) 0 (d.state k).1.entries (d.found k)).world :=
  ⟨rfl, rfl⟩

theorem attempted_eq (d : Drive) (k : Nat) :
    d.attempted k = duePositions (d.now k) 0 (d.cadences k) :=
  tickFrom_attempted _ _ _ _ _

theorem jobs_eq (d : Drive) (k : Nat) : (d.state k).1.entries.map (·.job) = d.jobs := by
  induction k with
  | zero => simp [state, entries_registered, Function.comp_def]
  | succ k ih => rw [(d.state_succ k).1, tickFrom_jobs, ih]

theorem jobsFrom_jobs (d : Drive) (k : Nat) : JobsFrom d.jobs 0 (d.state k).1.entries := by
  rw [← d.jobs_eq k]
  exact jobsFrom_zero _

/-- The world goes through the attempts of a tick, one after the other. -/
theorem world_succ (d : Drive) (k : Nat) : (d.state (k + 1)).2 =
    attempts (d.turns k).faults d.jobs (d.attempted k) (d.found k) := by
  rw [(d.state_succ k).2, tickFrom_world (d.jobsFrom_jobs k), attempted_eq]
  rfl

theorem mem_attempted : i ∈ d.attempted k ↔
    ∃ c, (d.cadences k)[i]? = some c ∧ c.isDue (d.now k) = true := by
  simp [attempted_eq, mem_duePositions]

/-- A tick executes the jobs at the attempted positions, in their order, and no other job. -/
theorem executes (d : Drive) (k : Nat) :
    Executes d.jobs ((d.attempted k).map fun i => (i, d.clockAfter k i)) (d.found k)
      (d.state (k + 1)).2 := by
  rw [world_succ]
  refine executes_attempts ?_ (fun i hi => ?_) _
  · rw [attempted_eq]
    exact duePositions_pairwise _ _ _
  · obtain ⟨c, hc, _⟩ := mem_attempted.mp hi
    have hlength : (d.cadences k).length = d.jobs.length := by
      rw [← d.jobs_eq k, cadences, List.length_map, List.length_map]
    exact hlength ▸ (List.getElem?_eq_some_iff.mp hc).1

/-- The clock right after an attempt is the one that the job leaves. -/
theorem clockAfter_eq {job : Job} (h : i ∈ d.attempted k) (hjob : d.jobs[i]? = some job) :
    ∃ w, d.clockAfter k i = (job.execute w).2.clock := by
  refine clock_attempts_through ?_ h hjob _
  rw [attempted_eq]
  exact duePositions_pairwise _ _ _

/-- An entry that a tick attempts is scheduled from the later one of the tick and the clock, and
any other entry stays as it is. -/
theorem cadence_succ (d : Drive) (k i : Nat) :
    (d.cadences (k + 1))[i]? = (d.cadences k)[i]?.map fun c =>
      if i ∈ d.attempted k then c.advance (max (d.now k) (d.clockAfter k i)) else c := by
  simp only [cadences, (d.state_succ k).1, List.getElem?_map,
    tickFrom_entry (d.jobsFrom_jobs k), Option.map_map]
  cases hentry : (d.state k).1.entries[i]? with
  | none => rfl
  | some e =>
      have hmem : i ∈ d.attempted k ↔ e.cadence.isDue (d.now k) = true := by
        simp [mem_attempted, cadences, hentry]
      simp only [Option.map_some, Function.comp_apply, hmem]
      split
      · rw [clockAfter, attempted_eq, Nat.zero_add]
        rfl
      · rfl

theorem cadence_zero (d : Drive) (i : Nat) :
    (d.cadences 0)[i]? = d.jobs[i]?.map fun job => { interval := job.interval } := by
  simp [cadences, state, entries_registered, Function.comp_def]

theorem interval_eq (d : Drive) (k i : Nat) :
    (d.cadences k)[i]?.map (·.interval) = d.jobs[i]?.map (·.interval) := by
  induction k with
  | zero => simp [cadence_zero, Function.comp_def]
  | succ k ih =>
      rw [← ih, cadence_succ, Option.map_map]
      congr 1
      funext c
      simp only [Function.comp_apply]
      split <;> rfl

theorem interval_of_cadence {c : Cadence} (hc : (d.cadences k)[i]? = some c) :
    ∃ job, d.jobs[i]? = some job ∧ job.interval = c.interval := by
  have hinterval := d.interval_eq k i
  rw [hc, Option.map_some, eq_comm, Option.map_eq_some_iff] at hinterval
  exact hinterval

/-- Where every job leaves one reading of the clock, that is what the clock reads. -/
theorem clockAfter_of_forall {t : Instant} (h : i ∈ d.attempted k)
    (hjobs : ∀ job ∈ d.jobs, ∀ w, (job.execute w).2.clock = t) : d.clockAfter k i = t := by
  obtain ⟨c, hc, _⟩ := mem_attempted.mp h
  obtain ⟨job, hjob, _⟩ := interval_of_cadence hc
  obtain ⟨w, hclock⟩ := clockAfter_eq h hjob
  rw [hclock, hjobs job (List.mem_of_getElem? hjob)]

end Drive

end PackageIndex.Scheduler
