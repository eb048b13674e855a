import PackageIndex.Proofs.Scheduler.Drive
/-!
Two schedulers side by side. What a job does, how it ends and what becomes of its entry in the
history reach the cadences by the clock only: two drives with the same intervals, the same ticks
and the same clock after each attempt attempt the same entries, whatever else differs.
-/
namespace PackageIndex.Scheduler

/-- Two drives agree in the intervals, in the times of the ticks and in what the clock reads after
the attempts that both make. Jobs, their ends, stores and faults may differ. -/
structure SameClocks (d d' : Drive) : Prop where
  intervals : d.jobs.map (·.interval) = d'.jobs.map (·.interval)
  now : ∀ k, d.now k = d'.now k
  clocks : ∀ k i, i ∈ d.attempted k → i ∈ d'.attempted k → d.clockAfter k i = d'.clockAfter k i

namespace SameClocks

variable {d d' : Drive} {k : Nat}

theorem cadences_zero (h : SameClocks d d') : d.cadences 0 = d'.cadences 0 := by
  apply List.ext_getElem?
  intro i
  have hinterval : d.jobs[i]?.map (·.interval) = d'.jobs[i]?.map (·.interval) := by
    rw [← List.getElem?_map, ← List.getElem?_map, h.intervals]
  rw [Drive.cadence_zero, Drive.cadence_zero]
  cases hjob : d.jobs[i]? <;> cases hjob' : d'.jobs[i]? <;> simp_all

theorem attempted_eq (h : SameClocks d d') (hcadences : d.cadences k = d'.cadences k) :
    d.attempted k = d'.attempted k := by
  rw [d.attempted_eq, d'.attempted_eq, hcadences, h.now]

theorem cadences_succ (h : SameClocks d d') (hcadences : d.cadences k = d'.cadences k) :
    d.cadences (k + 1) = d'.cadences (k + 1) := by
  have hattempted := h.attempted_eq hcadences
  apply List.ext_getElem?
  intro i
  rw [d.cadence_succ, d'.cadence_succ, hcadences, ← hattempted, h.now]
  by_cases hi : i ∈ d.attempted k
  · rw [h.clocks k i hi (hattempted ▸ hi)]
  · simp only [hi, ite_false]

theorem cadences_eq (h : SameClocks d d') (k : Nat) : d.cadences k = d'.cadences k := by
  induction k with
  | zero => exact h.cadences_zero
  | succ k ih => exact h.cadences_succ ih

end SameClocks

/-- At every tick both drives attempt the same entries in the same order, as many as each other,
and every entry has the same time in both. -/
theorem same_schedule (d d' : Drive) (h : SameClocks d d') (k : Nat) :
    d.attempted k = d'.attempted k ∧
    (d.attempted k).length = (d'.attempted k).length ∧
    d.cadences k = d'.cadences k ∧
    ∀ i, d.nextEligible k i = d'.nextEligible k i := by
  have hcadences := h.cadences_eq k
  have hattempted := h.attempted_eq hcadences
  refine ⟨hattempted, congrArg List.length hattempted, hcadences, fun i => ?_⟩
  rw [Drive.nextEligible, Drive.nextEligible, hcadences]

/-- Two jobs once a minute where the clock stands still; the first one ends in some way. -/
def twoJobs (exit : Except Interruption Unit) : Drive where
  jobs :=
    [{ id := "first", name := "", description := "", interval := .ofSeconds 60
       execute := fun w => (exit, { w with clock := .epoch }) },
     { id := "second", name := "", description := "", interval := .ofSeconds 60
       execute := fun w => (.ok (), { w with clock := .epoch }) }]
  world := { clock := .epoch }
  turns := fun k => { now := if k = 0 then .epoch else ⟨100, 0⟩, covered := by split <;> decide }

theorem sameClocks_twoJobs (exit exit' : Except Interruption Unit) :
    SameClocks (twoJobs exit) (twoJobs exit') := by
  have hclock (exit : Except Interruption Unit) :
      ∀ job ∈ (twoJobs exit).jobs, ∀ w, (job.execute w).2.clock = .epoch := by
    intro job hjob w
    simp only [twoJobs, List.mem_cons, List.not_mem_nil, or_false] at hjob
    rcases hjob with rfl | rfl <;> rfl
  refine ⟨rfl, fun _ => rfl, fun k i hi hi' => ?_⟩
  rw [Drive.clockAfter_of_forall hi (hclock exit), Drive.clockAfter_of_forall hi' (hclock exit')]

/-- A job that crashes at the first tick runs again at the second one, and so does the other. -/
theorem crash_stops_no_job :
    (twoJobs (.error (.crashed .other))).attempted 1 = [0, 1] :=
  (same_schedule _ _ (sameClocks_twoJobs (.ok ()) (.error (.crashed .other))) 1).1.symm.trans rfl

end PackageIndex.Scheduler
