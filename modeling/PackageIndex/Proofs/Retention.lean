import PackageIndex.Proofs.RunHistory
import PackageIndex.Retention
/-!
What trimming the run history deletes: the finished runs that started before the time from which
runs are kept, whatever year that time lies in, and no other ones. The period is never too long to
be told.
-/
namespace PackageIndex

/-- The start of the run is entered as this time, in a year of four digits. -/
structure RunRow.StartedAt (row : RunRow) (t : Instant) : Prop where
  writable : t.Writable
  stamp : row.startedAt = t.stamp

/-- The run is over, and it started before a time. -/
def RunRow.Outdated (row : RunRow) (cutoff : Instant) : Prop :=
  row.status ≠ RunStatus.running.text ∧ ∃ t, row.StartedAt t ∧ t < cutoff

/-- The start of every run is entered. -/
def RunHistory.Dated (h : RunHistory) : Prop :=
  ∀ id row, h.rows.find? id = some row → ∃ t, row.StartedAt t

namespace RunHistory

/-- The numbers of the expired runs. -/
def expired (h : RunHistory) (cutoff : Instant) : List Int :=
  (h.rows.filter fun r => isExpired cutoff r.2).keys

variable {h : RunHistory} {cutoff : Instant} {id : Int} {row : RunRow}

theorem length_expired : (h.expired cutoff).length = (h.deleteOlder cutoff).1 := by
  simp only [expired, deleteOlder, Table.keys, Table.values, Table.filter, List.length_map,
    List.filter_map]
  rfl

theorem mem_expired_iff :
    id ∈ h.expired cutoff ↔ ∃ row, h.rows.find? id = some row ∧ isExpired cutoff row = true := by
  simp only [expired, Table.mem_keys_iff, Table.find?_filter]

theorem find?_deleteOlder_iff_not_mem :
    (h.deleteOlder cutoff).2.rows.find? id = some row ↔
      h.rows.find? id = some row ∧ id ∉ h.expired cutoff := by
  rw [find?_deleteOlder, mem_expired_iff]
  refine and_congr_right fun hrow => ?_
  simp [hrow]

end RunHistory

namespace Retention

open RunHistory (isExpired)

variable {settings : RetentionSettings} {faults : HistoryFaults} {now : Instant}

theorem retentionDays_le (settings : RetentionSettings) :
    ¬ longestDays < settings.retentionDays.toNat := by
  have hdays := settings.retentionDays.toNat_lt
  simp only [longestDays]
  omega

theorem run_eq (settings : RetentionSettings) (faults : HistoryFaults) (now : Instant)
    (h : RunHistory) : run settings faults now h = match faults .deleteOlder with
      | none => .ok (h.deleteOlder (cutoff settings now))
      | some reason =>
          .error (.executionFailed (becauseOf "Failed to trim job history" reason)) := by
  simp only [run, if_neg (retentionDays_le settings), RunHistory.deleteOlder?, RunHistory.guarded]
  cases faults .deleteOlder <;> rfl

/-- A cutoff that the calendar does not cover is before every run, and so is the calendar's
start. -/
theorem stamp_lt_cutoff_iff {t : Instant} (ht : t.Writable) (hnow : now.OfClock)
    (hyear : (now.minus settings.period).year ≤ 9999) :
    t.stamp < (cutoff settings now).stamp ↔ t < now.minus settings.period := by
  rw [cutoff]
  by_cases hfits : Instant.earliest.secs ≤ (now.minus settings.period).secs
  · rw [Instant.before_eq_minus hfits, Instant.stamp_lt_stamp_iff ht (hnow.minus _) hyear]
  · have hfirst := (Timestamp.secs_bounds ht.year).1
    rw [Instant.before_eq_earliest hfits, Instant.stamp_lt_stamp_iff ht (by decide) (by decide)]
    simp only [secondsPerDay] at hfirst
    refine iff_of_false ?_ ?_ <;> rw [Instant.lt_def] <;> omega

theorem isExpired_iff {row : RunRow} (hstart : ∃ t, row.StartedAt t) (hnow : now.OfClock)
    (hyear : (now.minus settings.period).year ≤ 9999) :
    isExpired (cutoff settings now) row = true ↔ row.Outdated (now.minus settings.period) := by
  have hbefore : row.startedAt < (cutoff settings now).stamp ↔
      ∃ t, row.StartedAt t ∧ t < now.minus settings.period := by
    constructor
    · obtain ⟨t, ht⟩ := hstart
      rw [ht.stamp, stamp_lt_cutoff_iff ht.writable hnow hyear]
      exact fun hlt => ⟨t, ht, hlt⟩
    · rintro ⟨t, ht, hlt⟩
      rwa [ht.stamp, stamp_lt_cutoff_iff ht.writable hnow hyear]
  simp only [isExpired, RunHistory.isRunning, Bool.and_eq_true, Bool.not_eq_true',
    decide_eq_true_eq, decide_eq_false_iff_not, hbefore, RunRow.Outdated, and_comm]

/-- The history loses exactly the runs that are over and started before the present less the period
of retention, all other ones stay as they are, and the number of the lost ones is told. It fails
only if the store does, and never because the period is too long. -/
theorem outdated_runs_are_deleted (settings : RetentionSettings) (now : Instant)
    (h : RunHistory) (hnow : now.OfClock) (hyear : (now.minus settings.period).year ≤ 9999)
    (hdated : h.Dated) :
    (∃ (deleted : List Int) (h' : RunHistory), deleted.Nodup ∧
      (∀ id, id ∈ deleted ↔ ∃ row, h.rows.find? id = some row ∧
        row.Outdated (now.minus settings.period)) ∧
      (∀ id row, h'.rows.find? id = some row ↔ h.rows.find? id = some row ∧ id ∉ deleted) ∧
      ∀ faults, faults .deleteOlder = none →
        run settings faults now h = .ok (deleted.length, h')) ∧
    (∀ faults reason, faults .deleteOlder = some reason →
      run settings faults now h =
        .error (.executionFailed (becauseOf "Failed to trim job history" reason))) ∧
    ∀ faults message, run settings faults now h ≠ .error (.config message) := by
  refine ⟨⟨h.expired (cutoff settings now), (h.deleteOlder (cutoff settings now)).2,
    Table.keys_nodup _, fun id => ?_, fun id row => RunHistory.find?_deleteOlder_iff_not_mem,
    fun faults hnone => ?_⟩, fun faults reason hfault => ?_, fun faults message => ?_⟩
  · rw [RunHistory.mem_expired_iff]
    refine exists_congr fun row => and_congr_right fun hrow => ?_
    exact isExpired_iff (hdated id row hrow) hnow hyear
  · rw [run_eq, hnone, RunHistory.length_expired]
  · rw [run_eq, hfault]
  · rw [run_eq]
    cases faults .deleteOlder <;> nofun

/-- Runs a day before noon and half a second, one a nanosecond earlier, and one that goes on. -/
def threeRuns : RunHistory :=
  { rows := Table.ofList
      [ (1, { RunHistory.begun ⟨43200, 499999999⟩ "crawl" "schedule" with status := "completed" })
      , (2, { RunHistory.begun ⟨43200, 500000000⟩ "crawl" "schedule" with status := "failed" })
      , (3, RunHistory.begun .epoch "crawl" "schedule") ] }

theorem threeRuns_dated : threeRuns.Dated := by
  intro id row hrow
  have hmem := Table.mem_rows_iff.mpr hrow
  have hrows : threeRuns.rows.rows.map (·.2.startedAt) =
      [⟨43200, 499999999⟩, ⟨43200, 500000000⟩, .epoch].map Instant.stamp := rfl
  have hstart : row.startedAt ∈
      [⟨43200, 499999999⟩, ⟨43200, 500000000⟩, .epoch].map Instant.stamp :=
    hrows ▸ List.mem_map_of_mem hmem
  obtain ⟨t, ht, hstamp⟩ := List.mem_map.mp hstart
  refine ⟨t, ?_, hstamp.symm⟩
  have hwritable : ∀ t ∈ [⟨43200, 499999999⟩, ⟨43200, 500000000⟩, Instant.epoch], t.Writable := by
    decide
  exact hwritable t ht

theorem earlier_run_is_deleted :
    threeRuns.Dated ∧ ∃ (deleted : List Int) (h' : RunHistory), 1 ∈ deleted ∧
      run { retentionDays := 1 } (fun _ => none) ⟨129600, 500000000⟩ threeRuns =
        .ok (deleted.length, h') ∧ deleted.length = 1 ∧ h'.rows.keys = [2, 3] := by
  obtain ⟨⟨deleted, h', _, hdeleted, _, hrun⟩, _⟩ :=
    outdated_runs_are_deleted { retentionDays := 1 } ⟨129600, 500000000⟩ threeRuns
      (by decide) (by decide) threeRuns_dated
  have hran := hrun (fun _ => none) rfl
  have hpair : (deleted.length, h') =
      threeRuns.deleteOlder (cutoff { retentionDays := 1 } ⟨129600, 500000000⟩) :=
    Except.ok.inj (hran.symm.trans (run_eq _ _ _ _))
  have hleft : (threeRuns.deleteOlder (cutoff { retentionDays := 1 } ⟨129600, 500000000⟩)).1 = 1 ∧
      (threeRuns.deleteOlder (cutoff { retentionDays := 1 } ⟨129600, 500000000⟩)).2.rows.keys =
        [2, 3] := by
    decide +kernel
  rw [← hpair] at hleft
  refine ⟨threeRuns_dated, deleted, h', ?_, hran, hleft⟩
  exact (hdeleted 1).mpr ⟨_, rfl, by decide, ⟨43200, 499999999⟩, ⟨by decide, rfl⟩, by decide⟩

end Retention

end PackageIndex
