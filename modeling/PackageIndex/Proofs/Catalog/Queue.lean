import PackageIndex.Proofs.Catalog.Effects
import PackageIndex.Proofs.Catalog.History
/-!
The queue of paths never crawled, over any history of the catalog. A path waits since the moment at
which it was queued, as long as no later one handed it out, marked it bad or stored its document,
and of those that wait the one with the least whole second, and then with the least bytes, comes
out first. No path comes out more often than it was asked for while it did not wait.
-/
namespace PackageIndex.Catalog

namespace Moment

/-- The path is queued, with what is known of it and the whole second of the clock. A path that
waits already, is bad or is a package is not. -/
inductive Queues (path : String) : QueueRow → Moment → Prop
  | added {c : Catalog} {clock : Instant} {hasSubdirs : Bool} :
      c.queue.find? path = none → ¬ c.isBad path = true → c.packages.find? path = none →
      Queues path ⟨hasSubdirs, clock.secs⟩ ⟨c, .addNewCrawl clock path hasSubdirs⟩

/-- The path is taken out of the queue, if it is there. -/
inductive Withdraws (path : String) : Moment → Prop
  | handedOut {c : Catalog} {hasSubdirs : Bool} :
      c.popNewCrawl.1 = some ⟨path, hasSubdirs⟩ → Withdraws path ⟨c, .popNewCrawl⟩
  | markedBad {c : Catalog} {clock : Instant} : Withdraws path ⟨c, .markBad clock path⟩
  | stored {c : Catalog} {d : Document} {nextCrawl? : Option Instant} {suppressed : Bool} :
      d.importPath = path → Withdraws path ⟨c, .put d nextCrawl? suppressed⟩

def handedOut? (m : Moment) : Option String :=
  match m.operation with
  | .popNewCrawl => m.catalog.popNewCrawl.1.map (·.importPath)
  | _ => none

/-- The path is added and does not wait yet. -/
def asksAnew (path : String) (m : Moment) : Bool :=
  match m.operation with
  | .addNewCrawl _ path' _ => path' = path && !m.catalog.queue.contains path
  | _ => false

end Moment

/-- The path waits at the end of the history, with the row that it was queued with. -/
def Waits (history : List Moment) (path : String) (row : QueueRow) : Prop :=
  Since (Moment.Queues path row) (Moment.Withdraws path) history

/-- The order in which paths come out of the queue. -/
def Before (a b : String × QueueRow) : Prop :=
  a.2.queuedAt < b.2.queuedAt ∨
    a.2.queuedAt = b.2.queuedAt ∧ Text.bytes a.1 < Text.bytes b.1

/-- Targets come out of the queue one after the other until none does. -/
inductive Drains : Catalog → List CrawlTarget → Catalog → Prop
  | done {c : Catalog} : c.popNewCrawl.1 = none → Drains c [] c.popNewCrawl.2
  | next {c c' : Catalog} {target : CrawlTarget} {targets : List CrawlTarget} :
      c.popNewCrawl.1 = some target → Drains c.popNewCrawl.2 targets c' →
      Drains c (target :: targets) c'

variable {c c' : Catalog} {path : String} {row : QueueRow} {target : CrawlTarget}

theorem popNewCrawl_cases (c : Catalog) :
    ((∀ path, c.queue.find? path = none) ∧ c.popNewCrawl = (none, c)) ∨
      ∃ path row, c.queue.First (·.queuedAt) path row ∧
        c.popNewCrawl =
          (some ⟨path, row.hasSubdirs⟩, { c with queue := c.queue.erase path }) := by
  cases hfirst : leastBy (fun r => r.2.queuedAt) c.queue.rows with
  | none =>
      have hempty := leastBy_rows_eq_none_iff.mp hfirst
      exact .inl ⟨hempty, popNewCrawl_of_empty hempty⟩
  | some found =>
      obtain ⟨path, row⟩ := found
      have hleast := first_of_leastBy hfirst
      exact .inr ⟨path, row, hleast, popNewCrawl_of_first hleast⟩

theorem popNewCrawl_eq_none_iff :
    c.popNewCrawl.1 = none ↔ ∀ path, c.queue.find? path = none := by
  constructor
  · intro hnone
    rcases popNewCrawl_cases c with ⟨hempty, _⟩ | ⟨path, row, _, hpop⟩
    · exact hempty
    · rw [hpop] at hnone
      cases hnone
  · intro hempty
    rw [popNewCrawl_of_empty hempty]

theorem popNewCrawl_eq_some_iff :
    c.popNewCrawl.1 = some target ↔
      ∃ row, row.hasSubdirs = target.hasSubdirs ∧
        c.queue.First (·.queuedAt) target.importPath row := by
  constructor
  · intro hsome
    rcases popNewCrawl_cases c with ⟨_, hpop⟩ | ⟨path, row, hfirst, hpop⟩
    · rw [hpop] at hsome
      cases hsome
    · rw [hpop] at hsome
      cases hsome
      exact ⟨row, rfl, hfirst⟩
  · rintro ⟨row, hsubdirs, hfirst⟩
    rw [popNewCrawl_of_first hfirst, hsubdirs]

theorem dequeues_of_popNewCrawl (h : c.popNewCrawl.1 = some target) :
    c.Dequeues target.importPath c.popNewCrawl.2 := by
  obtain ⟨row, _, hfirst⟩ := popNewCrawl_eq_some_iff.mp h
  rw [popNewCrawl_of_first hfirst]
  exact dequeues_iff.mpr rfl

theorem find?_of_popNewCrawl (h : c.popNewCrawl.1 = some target) :
    c.popNewCrawl.2.queue.find? path = some row ↔
      path ≠ target.importPath ∧ c.queue.find? path = some row := by
  rw [dequeues_iff.mp (dequeues_of_popNewCrawl h), Table.find?_erase_eq_some_iff]

theorem addNewCrawl_of_new (clock : Instant) (hasSubdirs : Bool)
    (hqueue : c.queue.find? path = none) (hbad : ¬ c.isBad path = true)
    (hstored : c.packages.find? path = none) :
    (c.addNewCrawl clock path hasSubdirs).2 =
      { c with queue := c.queue.put path ⟨hasSubdirs, clock.secs⟩ } := by
  have hknown : (c.packages.contains path || c.queue.contains path) = false := by
    simp [Table.contains, hqueue, hstored]
  simp only [addNewCrawl, hbad, hknown, if_false, Bool.false_eq_true]

theorem addNewCrawl_of_known (clock : Instant) (hasSubdirs : Bool)
    (h : ¬ (c.queue.find? path = none ∧ ¬ c.isBad path = true ∧ c.packages.find? path = none)) :
    (c.addNewCrawl clock path hasSubdirs).2 = c := by
  by_cases hbad : c.isBad path = true
  · simp only [addNewCrawl, hbad, if_true]
  · have hknown : (c.packages.contains path || c.queue.contains path) = true := by
      apply Classical.byContradiction
      intro hunknown
      simp only [Table.contains, Bool.or_eq_true, not_or, Bool.not_eq_true,
        Option.isSome_eq_false_iff, Option.isNone_iff_eq_none] at hunknown
      exact h ⟨hunknown.2, hbad, hunknown.1⟩
    simp only [addNewCrawl, hbad, hknown, if_true, if_false, Bool.false_eq_true]

theorem find?_queue_addNewCrawl (clock : Instant) (path' : String) (hasSubdirs : Bool) :
    (c.addNewCrawl clock path' hasSubdirs).2.queue.find? path = some row ↔
      Moment.Queues path row ⟨c, .addNewCrawl clock path' hasSubdirs⟩ ∨
        c.queue.find? path = some row := by
  by_cases hnew : c.queue.find? path' = none ∧ ¬ c.isBad path' = true ∧
      c.packages.find? path' = none
  · obtain ⟨hqueue, hbad, hstored⟩ := hnew
    rw [addNewCrawl_of_new clock hasSubdirs hqueue hbad hstored, Table.find?_put]
    by_cases hpath : path = path'
    · subst hpath
      rw [if_pos rfl, Option.some.injEq]
      constructor
      · rintro rfl
        exact .inl (.added hqueue hbad hstored)
      · rintro (⟨_, _, _⟩ | hbefore)
        · rfl
        · rw [hqueue] at hbefore
          cases hbefore
    · rw [if_neg hpath]
      apply (or_iff_right _).symm
      rintro ⟨_, _, _⟩
      exact hpath rfl
  · rw [addNewCrawl_of_known clock hasSubdirs hnew]
    apply (or_iff_right _).symm
    rintro ⟨hqueue, hbad, hstored⟩
    exact hnew ⟨hqueue, hbad, hstored⟩

theorem find?_queue_popNewCrawl :
    c.popNewCrawl.2.queue.find? path = some row ↔
      c.queue.find? path = some row ∧ ¬ Moment.Withdraws path ⟨c, .popNewCrawl⟩ := by
  cases hpop : c.popNewCrawl.1 with
  | none =>
      have hempty := popNewCrawl_eq_none_iff.mp hpop
      simp [popNewCrawl_of_empty hempty, hempty]
  | some target =>
      have hleaves : Moment.Withdraws path ⟨c, .popNewCrawl⟩ ↔ path = target.importPath := by
        constructor
        · rintro ⟨hout⟩
          rw [hpop, Option.some.injEq] at hout
          rw [hout]
        · rintro rfl
          exact .handedOut hpop
      rw [find?_of_popNewCrawl hpop, hleaves, and_comm]

theorem find?_queue_run (c : Catalog) (op : Operation) :
    (op.run c).queue.find? path = some row ↔
      Moment.Queues path row ⟨c, op⟩ ∨
        c.queue.find? path = some row ∧ ¬ Moment.Withdraws path ⟨c, op⟩ := by
  have herased {path' : String} (hqueue : (op.run c).queue = c.queue.erase path')
      (hnew : ¬ Moment.Queues path row ⟨c, op⟩)
      (hleaves : Moment.Withdraws path ⟨c, op⟩ ↔ path = path') :
      (op.run c).queue.find? path = some row ↔
        Moment.Queues path row ⟨c, op⟩ ∨
          c.queue.find? path = some row ∧ ¬ Moment.Withdraws path ⟨c, op⟩ := by
    rw [hqueue, Table.find?_erase_eq_some_iff, hleaves, and_comm, or_iff_right hnew]
  cases op with
  | addNewCrawl clock path' hasSubdirs =>
      have hstays : ¬ Moment.Withdraws path ⟨c, .addNewCrawl clock path' hasSubdirs⟩ := by
        rintro ⟨⟩
      rw [Operation.run, find?_queue_addNewCrawl, and_iff_left hstays]
  | popNewCrawl =>
      have hnew : ¬ Moment.Queues path row ⟨c, .popNewCrawl⟩ := by rintro ⟨⟩
      rw [Operation.run, find?_queue_popNewCrawl, or_iff_right hnew]
  | markBad clock path' =>
      apply herased rfl (by rintro ⟨⟩)
      constructor
      · intro hleaves
        cases hleaves with
        | markedBad => rfl
      · rintro rfl
        exact .markedBad
  | put d nextCrawl? suppressed =>
      apply herased rfl (by rintro ⟨⟩)
      constructor
      · intro hleaves
        cases hleaves with
        | stored hpath => exact hpath.symm
      · intro hpath
        exact .stored hpath.symm
  | delete | setNextCrawl | bump | writeBlob =>
      exact kept_iff Iff.rfl (by rintro ⟨⟩) (by rintro ⟨⟩)

theorem waits_iff (hempty : ∀ path, c.queue.find? path = none) (ops : List Operation) :
    Waits (moments ops c) path row ↔ (runAll ops c).queue.find? path = some row := by
  have hstart : ¬ c.queue.find? path = some row := by
    rw [hempty]
    nofun
  exact (runAll_iff_since (P := fun c => c.queue.find? path = some row) find?_queue_run hstart
    ops).symm

theorem exists_drains (c : Catalog) : ∃ targets c', Drains c targets c' := by
  -- every target that comes out leaves a row less
  induction hlength : c.queue.keys.length using Nat.strongRecOn generalizing c with
  | ind n ih =>
      cases hpop : c.popNewCrawl.1 with
      | none => exact ⟨[], _, .done hpop⟩
      | some target =>
          obtain ⟨row, _, hfirst⟩ := popNewCrawl_eq_some_iff.mp hpop
          have hless : c.popNewCrawl.2.queue.keys.length < n := by
            rw [← hlength, dequeues_iff.mp (dequeues_of_popNewCrawl hpop)]
            exact Table.length_keys_erase_lt hfirst.stored
          obtain ⟨targets, c', hdrains⟩ := ih _ hless c.popNewCrawl.2 rfl
          exact ⟨target :: targets, c', .next hpop hdrains⟩

theorem Drains.catalog_eq {targets : List CrawlTarget} (h : Drains c targets c') :
    c' = { c with queue := Table.empty } := by
  induction h with
  | @done c hnone =>
      have hempty := popNewCrawl_eq_none_iff.mp hnone
      have hqueue : c.queue = Table.empty := Table.ext_find? hempty
      rw [popNewCrawl_of_empty hempty, ← hqueue]
  | next hpop _ ih => rw [ih, dequeues_iff.mp (dequeues_of_popNewCrawl hpop)]

/-- What comes out are the rows of the queue, each once and in order. -/
theorem Drains.exists_rows {targets : List CrawlTarget} (h : Drains c targets c') :
    ∃ rows : List (String × QueueRow),
      targets = rows.map (fun r => ⟨r.1, r.2.hasSubdirs⟩) ∧
      (∀ path row, (path, row) ∈ rows ↔ c.queue.find? path = some row) ∧
      rows.Pairwise fun a b => a.1 ≠ b.1 ∧ Before a b := by
  induction h with
  | done hnone =>
      refine ⟨[], rfl, fun path row => ?_, .nil⟩
      simp [popNewCrawl_eq_none_iff.mp hnone]
  | @next c c' target targets hpop hdrains ih =>
      obtain ⟨rows, rfl, hrows, hsorted⟩ := ih
      obtain ⟨first, hsubdirs, hfirst⟩ := popNewCrawl_eq_some_iff.mp hpop
      refine ⟨(target.importPath, first) :: rows, ?_, fun path row => ?_, ?_⟩
      · rw [List.map_cons, hsubdirs]
      · rw [List.mem_cons, hrows, find?_of_popNewCrawl hpop, Prod.mk.injEq]
        constructor
        · rintro (⟨rfl, rfl⟩ | ⟨_, hrow⟩)
          · exact hfirst.stored
          · exact hrow
        · intro hrow
          by_cases hpath : path = target.importPath
          · subst hpath
            exact .inl ⟨rfl, Option.some.inj (hrow.symm.trans hfirst.stored)⟩
          · exact .inr ⟨hpath, hrow⟩
      · refine List.pairwise_cons.mpr ⟨?_, hsorted⟩
        rintro ⟨path, row⟩ hmem
        obtain ⟨hpath, hrow⟩ := (find?_of_popNewCrawl hpop).mp ((hrows path row).mp hmem)
        exact ⟨Ne.symm hpath, hfirst.least path row hrow hpath⟩

section Counting

def waiting (c : Catalog) (path : String) : Nat := if c.queue.contains path then 1 else 0

theorem contains_of_run {op : Operation} (h : (op.run c).queue.contains path = true) :
    c.queue.contains path = true ∨ Moment.asksAnew path ⟨c, op⟩ = true := by
  obtain ⟨row, hrow⟩ := Option.isSome_iff_exists.mp h
  rcases (find?_queue_run c op).mp hrow with ⟨hqueue, _, _⟩ | ⟨hbefore, _⟩
  · exact .inr (by simp [Moment.asksAnew, Table.contains, hqueue])
  · exact .inl (Option.isSome_iff_exists.mpr ⟨row, hbefore⟩)

theorem contains_of_handedOut {op : Operation} (h : Moment.handedOut? ⟨c, op⟩ = some path) :
    c.queue.contains path = true ∧ (op.run c).queue.contains path = false := by
  cases op with
  | popNewCrawl =>
      obtain ⟨target, hpop, rfl⟩ := Option.map_eq_some_iff.mp h
      refine ⟨contains_of_popNewCrawl hpop, ?_⟩
      rw [Operation.run, Table.contains, (dequeues_of_popNewCrawl hpop).queue.key]
      rfl
  | addNewCrawl | markBad | put | delete | setNextCrawl | bump | writeBlob => cases h

/-- A path that is handed out waited and waits no more, and one that comes to wait is asked for. -/
theorem handedOut_le_of_run (c : Catalog) (op : Operation) (path : String) :
    (if Moment.handedOut? ⟨c, op⟩ = some path then 1 else 0) + waiting (op.run c) path ≤
      (if Moment.asksAnew path ⟨c, op⟩ then 1 else 0) + waiting c path := by
  by_cases hout : Moment.handedOut? ⟨c, op⟩ = some path
  · obtain ⟨hbefore, hafter⟩ := contains_of_handedOut hout
    simp [waiting, hout, hbefore, hafter]
  · by_cases hafter : (op.run c).queue.contains path = true
    · rcases contains_of_run hafter with hbefore | hasks
      · simp [waiting, hout, hafter, hbefore]
      · simp [waiting, hout, hafter, hasks]
    · simp [waiting, hout, hafter]

theorem handedOut_le (ops : List Operation) (c : Catalog) (path : String) :
    (moments ops c).countP (·.handedOut? = some path) + waiting (runAll ops c) path ≤
      (moments ops c).countP (Moment.asksAnew path) + waiting c path := by
  induction ops generalizing c with
  | nil => exact Nat.le_refl _
  | cons op ops ih =>
      have hrest := ih (op.run c)
      have hfirst := handedOut_le_of_run c op path
      have htail : runAll (op :: ops) c = runAll ops (op.run c) := rfl
      simp only [moments, List.countP_cons, decide_eq_true_eq, htail]
      omega

end Counting

/-- From an empty queue on, whatever operations follow one another: the path that comes out is the
first one of those that wait, and with it only its row is gone; nothing comes out when none waits.
A path that waits is not queued anew. Popped until nothing comes, the queue gives every path that
waits, once and in order, and no other table changes. No path was handed out more often than it was
added while it did not wait. -/
theorem queue_is_served_in_order (c : Catalog) (hempty : ∀ path, c.queue.find? path = none)
    (ops : List Operation) :
    (∀ target, (runAll ops c).popNewCrawl.1 = some target ↔
      ∃ row, row.hasSubdirs = target.hasSubdirs ∧
        Waits (moments ops c) target.importPath row ∧
        ∀ path row', Waits (moments ops c) path row' → path ≠ target.importPath →
          Before (target.importPath, row) (path, row')) ∧
    (∀ target, (runAll ops c).popNewCrawl.1 = some target →
      (runAll ops c).Dequeues target.importPath (runAll ops c).popNewCrawl.2) ∧
    ((runAll ops c).popNewCrawl.1 = none ↔ ∀ path row, ¬ Waits (moments ops c) path row) ∧
    (∀ path row clock hasSubdirs, Waits (moments ops c) path row →
      ((runAll ops c).addNewCrawl clock path hasSubdirs).2 = runAll ops c) ∧
    (∃ targets c', Drains (runAll ops c) targets c') ∧
    (∀ targets c', Drains (runAll ops c) targets c' →
      c' = { runAll ops c with queue := Table.empty } ∧
      ∃ rows : List (String × QueueRow),
        targets = rows.map (fun r => ⟨r.1, r.2.hasSubdirs⟩) ∧
        (∀ path row, (path, row) ∈ rows ↔ Waits (moments ops c) path row) ∧
        rows.Pairwise fun a b => a.1 ≠ b.1 ∧ Before a b) ∧
    ∀ path, (moments ops c).countP (·.handedOut? = some path) ≤
      (moments ops c).countP (Moment.asksAnew path) := by
  have hwaits (path : String) (row : QueueRow) :
      Waits (moments ops c) path row ↔ (runAll ops c).queue.find? path = some row :=
    waits_iff hempty ops
  refine ⟨?_, fun _ => dequeues_of_popNewCrawl, ?_, ?_, exists_drains _, ?_, ?_⟩
  · intro target
    rw [popNewCrawl_eq_some_iff]
    constructor
    · rintro ⟨row, hsubdirs, hfirst⟩
      refine ⟨row, hsubdirs, (hwaits _ _).mpr hfirst.stored, fun path row' hrow' hne => ?_⟩
      exact hfirst.least path row' ((hwaits _ _).mp hrow') hne
    · rintro ⟨row, hsubdirs, hrow, hleast⟩
      refine ⟨row, hsubdirs, (hwaits _ _).mp hrow, fun path row' hrow' hne => ?_⟩
      exact hleast path row' ((hwaits _ _).mpr hrow') hne
  · rw [popNewCrawl_eq_none_iff]
    simp only [hwaits, Option.eq_none_iff_forall_ne_some, ne_eq]
  · intro path row clock hasSubdirs hrow
    apply addNewCrawl_of_known
    intro hnew
    rw [(hwaits path row).mp hrow] at hnew
    cases hnew.1
  · intro targets c' hdrains
    obtain ⟨rows, htargets, hrows, hsorted⟩ := hdrains.exists_rows
    refine ⟨hdrains.catalog_eq, rows, htargets, fun path row => ?_, hsorted⟩
    rw [hrows, hwaits]
  · intro path
    have hcount := handedOut_le ops c path
    have hnone : waiting c path = 0 := by simp [waiting, Table.contains, hempty]
    omega

/-- Two paths are queued within one second, and the first of them once more when the clock has gone
back. -/
def queuedTogether : List Operation :=
  [ .addNewCrawl ⟨5, 200000000⟩ "b" false, .addNewCrawl ⟨5, 900000000⟩ "a" true
  , .addNewCrawl ⟨4, 0⟩ "b" true ]

theorem lesser_path_comes_first :
    ∃ row, row.hasSubdirs = true ∧ Waits (moments queuedTogether {}) "a" row ∧
      ∀ path row', Waits (moments queuedTogether {}) path row' → path ≠ "a" →
        Before ("a", row) (path, row') := by
  obtain ⟨hpop, _⟩ := queue_is_served_in_order {} (fun _ => rfl) queuedTogether
  exact (hpop ⟨"a", true⟩).mp (by decide)

end PackageIndex.Catalog
