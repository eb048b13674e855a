import PackageIndex.Proofs.RunHistory.Stamp
import PackageIndex.Proofs.Table
/-!
What the operations on the run history do to its rows. A new number is not in use and, as long as
there is one, lies beyond every number in use; no deletion touches a run in progress.
-/
namespace PackageIndex

namespace RunHistory

variable {h h' h'' : RunHistory} {id : Int} {row : RunRow}

theorem lt_nextId (hrow : h.rows.find? id = some row) : id < h.nextId := by
  have hmem : id ∈ h.rows.keys := Table.mem_keys_iff.mpr ⟨row, hrow⟩
  rw [nextId]
  cases hlast : h.rows.keys.getLast? with
  | none => simp [List.getLast?_eq_none_iff.mp hlast] at hmem
  | some last =>
      rcases (Table.greatest_of_getLast? hlast).2 id row hrow with rfl | hlt
      · exact Int.lt_succ id
      · exact Int.lt_trans hlt (Int.lt_succ last)

/-- The number after the greatest one in use is the next. -/
theorem nextId_of_greatest (hrow : h.rows.find? id = some row)
    (hgreatest : ∀ j r, h.rows.find? j = some r → j ≤ id) : h.nextId = id + 1 := by
  have hlast : h.rows.keys.getLast? = some id :=
    Table.getLast?_of_greatest hrow fun j r hr => by
      have hle := hgreatest j r hr
      omega
  rw [nextId, hlast]

theorem freeId?_of_le (hle : h.nextId ≤ maxId) : h.freeId? = some h.nextId := by
  rw [freeId?, if_pos hle]

/-- The number of a new row has no row so far, drawn or not. -/
theorem find?_of_freeId? (hfree : h.freeId? = some id) : h.rows.find? id = none := by
  rw [freeId?] at hfree
  split at hfree
  · obtain rfl := Option.some.inj hfree
    cases hrow : h.rows.find? h.nextId with
    | none => rfl
    | some row => exact absurd (lt_nextId hrow) (Int.lt_irrefl _)
  · simpa [Table.contains] using List.find?_some hfree

theorem running_eq_nil_iff :
    h.running = [] ↔ ∀ id row, h.rows.find? id = some row → isRunning row = false := by
  simp only [running, List.reverse_eq_nil_iff, List.map_eq_nil_iff, List.filter_eq_nil_iff,
    Bool.not_eq_true, Prod.forall, Table.mem_rows_iff]

theorem isRunning_begun (clock : Instant) (jobId trigger : String) :
    isRunning (begun clock jobId trigger) = true := rfl

theorem withRow_sets (h : RunHistory) (id : Int) (row : RunRow) :
    Table.Sets id (some row) h.rows (h.withRow id row).rows :=
  Table.sets_some_iff.mpr rfl

theorem finish_changes (h : RunHistory) (clock : Instant) (id : Int) (status : RunStatus)
    (message : Option String) :
    Table.Changes (fun j _ => j = id)
      (fun _ row => { row with finishedAt := some clock.stamp, status := status.text, message })
      h.rows (h.finish clock id status message).rows :=
  Table.changes_adjust _ _ _

theorem finish_sets (hrow : h.rows.find? id = some row) (clock : Instant) (status : RunStatus)
    (message : Option String) :
    Table.Sets id
      (some { row with finishedAt := some clock.stamp, status := status.text, message })
      h.rows (h.finish clock id status message).rows where
  key := (h.finish_changes clock id status message).changed id row hrow rfl
  others := fun j hj => (h.finish_changes clock id status message).others j fun _ _ => hj

/-- A run in progress, as the next start of the scheduler leaves it. -/
def interrupted (clock : Instant) (row : RunRow) : RunRow :=
  { row with
    status := RunStatus.failed.text, finishedAt := some clock.stamp
    message := some interruption }

theorem markStale_changes (h : RunHistory) (clock : Instant) :
    Table.Changes (fun _ row => isRunning row = true) (fun _ row => interrupted clock row)
      h.rows (h.markStale clock).2.rows :=
  Table.changes_adjust _ _ _

theorem running_markStale (h : RunHistory) (clock : Instant) :
    (h.markStale clock).2.running = [] := by
  rw [running_eq_nil_iff]
  intro id row hrow
  obtain ⟨row₀, _, ⟨_, rfl⟩ | ⟨hidle, rfl⟩⟩ := (h.markStale_changes clock).of_find? hrow
  · rfl
  · exact Bool.not_eq_true _ ▸ hidle

/-- Deletions of expired runs, each from a time of its own; there may be none. -/
inductive Trims (h : RunHistory) : RunHistory → Prop
  | nothing : Trims h h
  | more {h' : RunHistory} (cutoff : Instant) : Trims h h' → Trims h (h'.deleteOlder cutoff).2

/-- Runs in progress are left as they are, and no other run is new or changed. -/
structure Spares (h h' : RunHistory) : Prop where
  running : ∀ id row, h.rows.find? id = some row → isRunning row = true →
    h'.rows.find? id = some row
  old : ∀ id row, h'.rows.find? id = some row → h.rows.find? id = some row

theorem find?_deleteOlder {cutoff : Instant} :
    (h.deleteOlder cutoff).2.rows.find? id = some row ↔
      h.rows.find? id = some row ∧ isExpired cutoff row = false := by
  simp [deleteOlder, Table.find?_filter]

theorem Trims.spares (ht : Trims h h') : Spares h h' := by
  induction ht with
  | nothing => exact ⟨fun _ _ hrow _ => hrow, fun _ _ hrow => hrow⟩
  | more cutoff _ ih =>
      constructor
      · intro id row hrow hrunning
        exact find?_deleteOlder.mpr ⟨ih.running id row hrow hrunning, by simp [isExpired, hrunning]⟩
      · intro id row hrow
        exact ih.old id row (find?_deleteOlder.mp hrow).1

end RunHistory

end PackageIndex
