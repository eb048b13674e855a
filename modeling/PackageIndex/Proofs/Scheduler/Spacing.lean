import PackageIndex.Proofs.Scheduler.Drive
/-!
When a driven scheduler attempts an entry. An entry with a positive interval is attempted by the
first tick and then whenever the time it was given has passed; that time lies a whole interval
past both the tick and the clock of the last attempt, and it is never overlooked by a tick.
-/
namespace PackageIndex.Scheduler

theorem elapsed_le {prev next t : Instant} (h : prev ≤ next) (hleap : prev.nanos < nanosPerSecond) :
    elapsed next t ≤ elapsed prev t := by
  rw [Span.le_def, elapsed, elapsed]
  rw [Instant.le_def] at h
  simp only [Instant.toNanos, nanosPerSecond] at *
  omega

namespace Drive

variable {d : Drive} {k i : Nat}

theorem nextEligible_zero (d : Drive) (i : Nat) : d.nextEligible 0 i = none := by
  rw [nextEligible, cadence_zero]
  cases d.jobs[i]? <;> rfl

theorem nextEligible_of_not_mem (h : i ∉ d.attempted k) :
    d.nextEligible (k + 1) i = d.nextEligible k i := by
  simp only [nextEligible, cadence_succ, h, ite_false, Option.map_id']

theorem nextEligible_of_mem {job : Job} (h : i ∈ d.attempted k) (hjob : d.jobs[i]? = some job) :
    d.nextEligible (k + 1) i =
      some ((max (d.now k) (d.clockAfter k i)).after (min job.interval Span.longestDelay)) := by
  obtain ⟨c, hc, _⟩ := mem_attempted.mp h
  obtain ⟨job', hjob', hinterval⟩ := interval_of_cadence hc
  obtain rfl : job = job' := Option.some.inj (hjob.symm.trans hjob')
  simp only [nextEligible, cadence_succ, hc, h, ite_true, Option.map_some, Option.bind_some,
    Cadence.advance, hinterval]

/-- An entry has a time from its first attempt on. -/
theorem nextEligible_eq_none_iff (d : Drive) (k i : Nat) :
    d.nextEligible k i = none ↔ ∀ j < k, i ∉ d.attempted j := by
  induction k with
  | zero => simp [nextEligible_zero]
  | succ k ih =>
      by_cases h : i ∈ d.attempted k
      · obtain ⟨c, hc, _⟩ := mem_attempted.mp h
        obtain ⟨job, hjob, _⟩ := interval_of_cadence hc
        rw [nextEligible_of_mem h hjob]
        simp only [reduceCtorEq, false_iff]
        exact fun hnever => hnever k (Nat.lt_succ_self k) h
      · rw [nextEligible_of_not_mem h, ih]
        constructor
        · intro hnever j hj
          rcases Nat.lt_succ_iff_lt_or_eq.mp hj with hlt | rfl
          · exact hnever j hlt
          · exact h
        · exact fun hnever j hj => hnever j (Nat.lt_succ_of_lt hj)

theorem mem_attempted_iff : i ∈ d.attempted k ↔
    ∃ job, d.jobs[i]? = some job ∧ job.interval ≠ Span.zero ∧
      ((∀ j < k, i ∉ d.attempted j) ∨
        ∃ next, d.nextEligible k i = some next ∧ next < d.now k) := by
  rw [mem_attempted, ← nextEligible_eq_none_iff]
  constructor
  · rintro ⟨c, hc, hdue⟩
    obtain ⟨job, hjob, hinterval⟩ := interval_of_cadence hc
    rw [Cadence.isDue_iff] at hdue
    refine ⟨job, hjob, hinterval ▸ hdue.1, ?_⟩
    simpa [nextEligible, hc] using hdue.2
  · rintro ⟨job, hjob, hinterval, hnext⟩
    have hcadence := d.interval_eq k i
    rw [hjob, Option.map_some, Option.map_eq_some_iff] at hcadence
    obtain ⟨c, hc, hsame⟩ := hcadence
    refine ⟨c, hc, Cadence.isDue_iff.mpr ⟨hsame ▸ hinterval, ?_⟩⟩
    simpa [nextEligible, hc] using hnext

theorem now_le_latest (d : Drive) (k : Nat) : d.now k ≤ Instant.latest := (d.turns k).covered.2

/-- From an attempt on, what lies past the entry's time lies past a whole interval after it. -/
theorem interval_lt_of_nextEligible_lt {j : Nat} {job : Job} (hj : i ∈ d.attempted j)
    (hjob : d.jobs[i]? = some job) (hjk : j < k) :
    ∃ next, d.nextEligible k i = some next ∧ ∀ t ≤ Instant.latest, next < t →
      (max (d.now j) (d.clockAfter j i)).plus job.interval < t := by
  induction k with
  | zero => omega
  | succ k ih =>
      by_cases h : i ∈ d.attempted k
      · refine ⟨_, nextEligible_of_mem h hjob, fun t ht hlt => ?_⟩
        rcases Nat.lt_succ_iff_lt_or_eq.mp hjk with hlt' | rfl
        · -- The tick lies past the earlier interval already, and its own schedule past the tick.
          obtain ⟨next, hnext, hpast⟩ := ih hlt'
          obtain ⟨_, _, _, hnever | ⟨next', hnext', hdue⟩⟩ := mem_attempted_iff.mp h
          · exact absurd hj (hnever j hlt')
          · cases hnext.symm.trans hnext'
            have hspaced := hpast (d.now k) (d.now_le_latest k) hdue
            have hlater := Instant.le_after_of_le (s := min job.interval Span.longestDelay)
              (Instant.le_max_left (d.now k) (d.clockAfter k i)) (d.now_le_latest k)
            exact Instant.lt_trans hspaced (Instant.lt_of_le_of_lt hlater hlt)
        · have hearly := Instant.le_trans (d.turns j).covered.1
            (Instant.le_max_left (d.now j) (d.clockAfter j i))
          exact Instant.plus_lt_of_after_lt hearly hlt ht
      · have hjk' : j < k := by
          rcases Nat.lt_succ_iff_lt_or_eq.mp hjk with hlt | rfl
          · exact hlt
          · exact absurd hj h
        rw [nextEligible_of_not_mem h]
        exact ih hjk'

/-- A tick leaves no entry that is due at its own time or at an earlier one. -/
theorem not_isDue_after {c : Cadence} {t : Instant} (hc : c ∈ d.cadences (k + 1))
    (ht : t ≤ d.now k) : c.isDue t = false := by
  rw [← Bool.not_eq_true]
  intro hdue
  have hnow : c.isDue (d.now k) = true := Cadence.isDue_of_le hdue ht
  obtain ⟨i, hi⟩ := List.mem_iff_getElem?.mp hc
  rw [cadence_succ, Option.map_eq_some_iff] at hi
  obtain ⟨before, hbefore, rfl⟩ := hi
  by_cases h : i ∈ d.attempted k
  · rw [if_pos h, Cadence.not_isDue_advance (Instant.le_max_left _ _) (d.now_le_latest k)] at hnow
    cases hnow
  · rw [if_neg h] at hnow
    exact h (mem_attempted.mpr ⟨before, hbefore, hnow⟩)

/-- A tick that is repeated attempts nothing and leaves everything as it is. -/
theorem tick_again (d : Drive) (k : Nat) {t : Instant} (ht : t ≤ d.now k)
    (faultsAt : Nat → HistoryFaults) (w : World) :
    (d.state (k + 1)).1.tick faultsAt t w = ((d.state (k + 1)).1, 0, w) := by
  have hidle : ∀ e ∈ (d.state (k + 1)).1.entries, e.cadence.isDue t = false :=
    fun e he => not_isDue_after (List.mem_map_of_mem he) ht
  simp only [tick, tickFrom_of_not_due _ _ hidle, List.length_nil]

/-- An entry that a tick attempts once more had its time after the tick before. -/
theorem now_le_nextEligible {next : Instant} (h : i ∈ d.attempted (k + 1))
    (hnext : d.nextEligible (k + 1) i = some next) : d.now k ≤ next ∧ next < d.now (k + 1) := by
  obtain ⟨c, hc, hdue⟩ := mem_attempted.mp h
  rw [nextEligible, hc, Option.bind_some] at hnext
  obtain ⟨hinterval, hnone | ⟨next', hnext', hlt⟩⟩ := Cadence.isDue_iff.mp hdue
  · cases hnone.symm.trans hnext
  · cases hnext.symm.trans hnext'
    refine ⟨Instant.not_lt.mp fun hbefore => ?_, hlt⟩
    have hdue' : c.isDue (d.now k) = true :=
      Cadence.isDue_iff.mpr ⟨hinterval, .inr ⟨next, hnext, hbefore⟩⟩
    rw [not_isDue_after (List.mem_of_getElem? hc) (Instant.le_refl _)] at hdue'
    cases hdue'

/-- Which entries a tick attempts, how far apart the attempts of one entry are, and how late.
A tick executes in their order, each of them once, exactly the jobs of the entries with a positive
interval that were never attempted or whose time is past, and returns their number. Two attempts
of one entry lie more than its interval apart, counted from the later one of the first tick and
the clock right after it. Nothing is due up to a tick once it is over, so repeating it does
nothing, and no attempt is later than the tick before allows. -/
theorem attempts_are_spaced (d : Drive) (k : Nat) :
    ((d.attempted k).Pairwise (· < ·) ∧
      (∀ i, i ∈ d.attempted k ↔ ∃ job, d.jobs[i]? = some job ∧ job.interval ≠ Span.zero ∧
        ((∀ j < k, i ∉ d.attempted j) ∨
          ∃ next, d.nextEligible k i = some next ∧ next < d.now k)) ∧
      Executes d.jobs ((d.attempted k).map fun i => (i, d.clockAfter k i)) (d.found k)
        (d.state (k + 1)).2 ∧
      d.count k = (d.attempted k).length) ∧
    (∀ j i job, j < k → i ∈ d.attempted j → i ∈ d.attempted k → d.jobs[i]? = some job →
      (max (d.now j) (d.clockAfter j i)).plus job.interval < d.now k) ∧
    (∀ t ≤ d.now k, (∀ c ∈ d.cadences (k + 1), c.isDue t = false) ∧
      ∀ faultsAt w, (d.state (k + 1)).1.tick faultsAt t w = ((d.state (k + 1)).1, 0, w)) ∧
    ∀ i next, i ∈ d.attempted (k + 1) → d.nextEligible (k + 1) i = some next →
      d.now k ≤ next ∧ next < d.now (k + 1) ∧
      ((d.now k).nanos < nanosPerSecond →
        elapsed next (d.now (k + 1)) ≤ elapsed (d.now k) (d.now (k + 1))) := by
  refine ⟨⟨?_, fun i => mem_attempted_iff, d.executes k, rfl⟩, fun j i job hjk hj hk hjob => ?_,
    fun t ht => ⟨fun c hc => not_isDue_after hc ht, d.tick_again k ht⟩,
    fun i next hi hnext => ?_⟩
  · rw [attempted_eq]
    exact duePositions_pairwise _ _ _
  · obtain ⟨next, hnext, hpast⟩ := interval_lt_of_nextEligible_lt hj hjob hjk
    obtain ⟨_, _, _, hnever | ⟨next', hnext', hdue⟩⟩ := mem_attempted_iff.mp hk
    · exact absurd hj (hnever j hjk)
    · cases hnext.symm.trans hnext'
      exact hpast (d.now k) (d.now_le_latest k) hdue
  · obtain ⟨hle, hlt⟩ := now_le_nextEligible hi hnext
    exact ⟨hle, hlt, elapsed_le hle⟩

/-- A job once a minute that takes half of one. The second tick comes when a minute has passed
since the first one, but not since the job has ended; the third one comes later. -/
def halfMinute : Drive where
  jobs :=
    [{ id := "slow", name := "", description := "", interval := .ofSeconds 60
       execute := fun w => (.ok (), { w with clock := ⟨w.clock.secs + 30, 0⟩ }) }]
  world := { clock := .epoch }
  turns := fun k =>
    { now := if k = 0 then .epoch else if k = 1 then ⟨80, 0⟩ else ⟨100, 0⟩
      covered := by
        split
        · decide
        · split <;> decide }

theorem slow_job_waits_for_its_minute :
    halfMinute.attempted 1 = [] ∧ halfMinute.attempted 2 = [0] ∧ halfMinute.count 2 = 1 ∧
      (max (halfMinute.now 0) (halfMinute.clockAfter 0 0)).plus (.ofSeconds 60) <
        halfMinute.now 2 ∧
      Executes halfMinute.jobs [(0, ⟨60, 0⟩)] (halfMinute.found 2) (halfMinute.state 3).2 := by
  have hfirst : 0 ∈ halfMinute.attempted 0 := by decide +kernel
  have hthird : halfMinute.attempted 2 = [0] := by decide +kernel
  obtain ⟨⟨_, _, hexecutes, hcount⟩, hspaced, _⟩ := attempts_are_spaced halfMinute 2
  have hclock : halfMinute.clockAfter 2 0 = ⟨60, 0⟩ := by decide +kernel
  refine ⟨by decide +kernel, hthird, hcount.trans (by rw [hthird]; rfl), ?_, ?_⟩
  · have hlater : 0 ∈ halfMinute.attempted 2 := by
      rw [hthird]
      exact List.mem_singleton.mpr rfl
    have hjob : halfMinute.jobs[0]? = some (halfMinute.jobs.head (by decide)) := rfl
    have hinterval : (halfMinute.jobs.head (by decide)).interval = .ofSeconds 60 := rfl
    have hnext := hspaced 0 0 _ (by decide) hfirst hlater hjob
    rwa [hinterval] at hnext
  · simpa only [hthird, List.map_cons, List.map_nil, hclock] using hexecutes

end Drive

end PackageIndex.Scheduler
