import PackageIndex.Enqueue
import PackageIndex.Proofs.Catalog.Separation
/-!
What queueing paths from the command line comes to. Every path that is asked for is counted as
queued or reported as refused, by the bad paths alone; the queue gains each new path once. So the
same arguments find nothing left to do.
-/
namespace PackageIndex

/-- A path that is asked for, and is neither bad nor stored nor waiting already. -/
structure Catalog.IsNew (c : Catalog) (paths : List String) (path : String) : Prop where
  asked : path ∈ paths
  notBad : ¬ c.isBad path = true
  notStored : ¬ c.packages.contains path = true
  notQueued : ¬ c.queue.contains path = true

/-- The queue has gained the new ones of some paths, each at its time, and nothing else is
different. -/
structure Catalog.Queues (queuedAt : String → Instant) (hasSubdirs : Bool) (paths : List String)
    (c c' : Catalog) : Prop where
  packages : c'.packages = c.packages
  bad : c'.bad = c.bad
  blobs : c'.blobs = c.blobs
  queue : ∀ path row, c'.queue.find? path = some row ↔ c.queue.find? path = some row ∨
    c.IsNew paths path ∧ row = { hasSubdirs, queuedAt := (queuedAt path).secs }

namespace Catalog

variable {c c' c'' : Catalog} {queuedAt queuedAt' : String → Instant} {hasSubdirs : Bool}
  {path : String} {paths paths' : List String}

theorem isNew_iff : c.IsNew paths path ↔ path ∈ paths ∧ ¬ c.isBad path = true ∧
    ¬ c.packages.contains path = true ∧ ¬ c.queue.contains path = true :=
  ⟨fun h => ⟨h.asked, h.notBad, h.notStored, h.notQueued⟩, fun ⟨h, h', h'', h'''⟩ =>
    ⟨h, h', h'', h'''⟩⟩

theorem contains_queue_iff :
    c.queue.contains path = true ↔ ∃ row, c.queue.find? path = some row := by
  rw [Table.contains, Option.isSome_iff_exists]

/-- A path that is bad, stored or waiting already changes nothing. -/
theorem addNewCrawl_of_not_isNew (h : ¬ c.IsNew [path] path) (clock : Instant)
    (hasSubdirs : Bool) : (c.addNewCrawl clock path hasSubdirs).2 = c := by
  rw [addNewCrawl]
  by_cases hbad : c.isBad path = true
  · rw [if_pos hbad]
  · rw [if_neg hbad, if_pos]
    rw [Bool.or_eq_true]
    refine Classical.byContradiction fun hnot => h ⟨List.mem_cons_self, hbad, ?_, ?_⟩
    · exact fun hstored => hnot (.inl hstored)
    · exact fun hqueued => hnot (.inr hqueued)

theorem addNewCrawl_of_isNew (h : c.IsNew [path] path) (clock : Instant) (hasSubdirs : Bool) :
    (c.addNewCrawl clock path hasSubdirs).2 =
      { c with queue := c.queue.put path { hasSubdirs, queuedAt := clock.secs } } := by
  rw [addNewCrawl, if_neg h.notBad, if_neg]
  rw [Bool.or_eq_true]
  exact fun hknown => hknown.elim h.notStored h.notQueued

theorem queues_nothing (c : Catalog) : Queues queuedAt hasSubdirs [] c c := by
  refine ⟨rfl, rfl, rfl, fun path row => ?_⟩
  simp [isNew_iff]

theorem queues_addNewCrawl (c : Catalog) (clock : Instant) (path : String) (hasSubdirs : Bool) :
    Queues (fun _ => clock) hasSubdirs [path] c (c.addNewCrawl clock path hasSubdirs).2 := by
  by_cases hnew : c.IsNew [path] path
  · rw [addNewCrawl_of_isNew hnew]
    refine ⟨rfl, rfl, rfl, fun path' row => ?_⟩
    rw [Table.find?_put]
    by_cases heq : path' = path
    · subst heq
      have hnone : c.queue.find? path' = none := by simpa [Table.contains] using hnew.notQueued
      simp [hnew, hnone, eq_comm]
    · simp [heq, isNew_iff]
  · rw [addNewCrawl_of_not_isNew hnew]
    refine ⟨rfl, rfl, rfl, fun path' row => ?_⟩
    have hother : ¬ c.IsNew [path] path' := fun h => hnew (List.mem_singleton.mp h.asked ▸ h)
    simp [hother]

theorem Queues.isBad_eq (h : Queues queuedAt hasSubdirs paths c c') : c'.isBad = c.isBad := by
  funext path
  rw [isBad, isBad, h.bad]

theorem Queues.contains_iff (h : Queues queuedAt hasSubdirs paths c c') :
    c'.queue.contains path = true ↔ c.queue.contains path = true ∨ c.IsNew paths path := by
  simp only [contains_queue_iff, h.queue, exists_or, exists_and_left, exists_eq, and_true]

/-- Only the times of the paths that are queued count. -/
theorem Queues.congr (h : Queues queuedAt hasSubdirs paths c c')
    (hsame : ∀ path, c.IsNew paths path → queuedAt' path = queuedAt path) :
    Queues queuedAt' hasSubdirs paths c c' where
  packages := h.packages
  bad := h.bad
  blobs := h.blobs
  queue path row := by
    rw [h.queue]
    exact or_congr_right (and_congr_right fun hnew => by rw [hsame path hnew])

/-- Paths that are queued later find the earlier ones waiting. -/
theorem Queues.append (h : Queues queuedAt hasSubdirs paths c c')
    (h' : Queues queuedAt hasSubdirs paths' c' c'') :
    Queues queuedAt hasSubdirs (paths ++ paths') c c'' := by
  refine ⟨h'.packages.trans h.packages, h'.bad.trans h.bad, h'.blobs.trans h.blobs, ?_⟩
  intro path row
  simp only [h'.queue, h.queue, isNew_iff, h.contains_iff, h.isBad_eq, h.packages, List.mem_append]
  grind

/-- Afterwards none of the paths is new. -/
theorem Queues.not_isNew (h : Queues queuedAt hasSubdirs paths c c') : ¬ c'.IsNew paths path := by
  intro hnew
  refine hnew.notQueued (h.contains_iff.mpr (.inr ⟨hnew.asked, ?_, ?_, ?_⟩))
  · exact h.isBad_eq ▸ hnew.notBad
  · exact h.packages ▸ hnew.notStored
  · exact fun hqueued => hnew.notQueued (h.contains_iff.mpr (.inl hqueued))

/-- The paths that the queue gains are the new ones, each once. -/
theorem Queues.exists_gained (h : Queues queuedAt hasSubdirs paths c c') :
    ∃ gained : List String, gained.Nodup ∧ (∀ path, path ∈ gained ↔ c.IsNew paths path) ∧
      c'.queue.keys.Perm (c.queue.keys ++ gained) := by
  have hkeys (c : Catalog) : ∀ path, path ∈ c.queue.keys ↔ c.queue.contains path = true :=
    fun path => by rw [Table.mem_keys_iff, contains_queue_iff]
  have hmem (path : String) : path ∈ c'.queue.keys.filter (!c.queue.contains ·) ↔
      c.IsNew paths path := by
    rw [List.mem_filter, hkeys, h.contains_iff, Bool.not_eq_true']
    constructor
    · rintro ⟨hqueued | hnew, hnot⟩
      · rw [hnot] at hqueued
        cases hqueued
      · exact hnew
    · exact fun hnew => ⟨.inr hnew, Bool.not_eq_true _ ▸ hnew.notQueued⟩
  have hnodup : (c'.queue.keys.filter (!c.queue.contains ·)).Nodup :=
    c'.queue.keys_nodup.filter _
  refine ⟨_, hnodup, hmem, ?_⟩
  refine (List.perm_ext_iff_of_nodup c'.queue.keys_nodup ?_).mpr fun path => ?_
  · refine List.nodup_append.mpr ⟨c.queue.keys_nodup, hnodup, ?_⟩
    rintro path hpath _ hgained rfl
    exact ((hmem path).mp hgained).notQueued ((hkeys c path).mp hpath)
  · rw [List.mem_append, hmem, hkeys, hkeys, h.contains_iff]

end Catalog

namespace Enqueue

open Catalog (Queues)

/-- The paths that are asked for: the arguments without the blanks at their ends, as far as
anything is left of them. -/
def wanted (args : List String) : List String := (args.map Text.trimmed).filter (· ≠ "")

/-- What is reported on some paths by the bad ones. -/
def reportOn (isBad : String → Bool) (paths : List String) : Report :=
  { queued := (paths.filter (!isBad ·)).length, refused := paths.filter isBad }

variable {faults : CatalogFaults} {c : Catalog} {args rest : List String} {arg : String}

theorem wanted_cons_of_blank (h : Text.trimmed arg = "") : wanted (arg :: rest) = wanted rest := by
  simp [wanted, h]

theorem wanted_cons_of_ne (h : Text.trimmed arg ≠ "") :
    wanted (arg :: rest) = Text.trimmed arg :: wanted rest := by
  simp [wanted, h]

theorem length_wanted (args : List String) :
    (wanted args).length = (args.filter fun arg => Text.trimmed arg ≠ "").length := by
  rw [wanted, List.filter_map, List.length_map]
  rfl

theorem reportOn_cons (isBad : String → Bool) (path : String) (paths : List String) :
    reportOn isBad (path :: paths) = (reportOn isBad paths).add path (!isBad path) := by
  cases hbad : isBad path <;> simp [reportOn, Report.add, hbad]

theorem queued_add_refused (isBad : String → Bool) (paths : List String) :
    (reportOn isBad paths).queued + (reportOn isBad paths).refused.length = paths.length := by
  rw [reportOn, Nat.add_comm, ← List.countP_eq_length_filter, ← List.countP_eq_length_filter,
    List.length_eq_countP_add_countP isBad]
  simp

theorem enqueue_cons_of_blank (clockAt : Nat → Instant) (hasSubdirs : Bool)
    (h : Text.trimmed arg = "") :
    enqueue faults hasSubdirs clockAt (arg :: rest) c =
      enqueue faults hasSubdirs (fun n => clockAt (n + 1)) rest c := by
  rw [enqueue, if_pos h]

/-- One path that the store does not fail on, and the others after it. -/
theorem enqueue_cons_of_ne {clockAt : Nat → Instant} {hasSubdirs : Bool} {report : Report} {c' : Catalog}
    (h : Text.trimmed arg ≠ "") (hgranted : faults (.addNewCrawl (Text.trimmed arg)) = none)
    (hrest : enqueue faults hasSubdirs (fun n => clockAt (n + 1)) rest
      (c.addNewCrawl (clockAt 0) (Text.trimmed arg) hasSubdirs).2 = (.ok report, c')) :
    enqueue faults hasSubdirs clockAt (arg :: rest) c =
      (.ok (report.add (Text.trimmed arg) (!c.isBad (Text.trimmed arg))), c') := by
  have haccepted : (c.addNewCrawl (clockAt 0) (Text.trimmed arg) hasSubdirs).1 =
      !c.isBad (Text.trimmed arg) := by
    rw [Bool.eq_iff_iff, Catalog.addNewCrawl_accepts_iff, Bool.not_eq_true', Bool.not_eq_true]
  rw [enqueue, if_neg h, Access.addNewCrawl, Access.guarded_of_none _ _ hgranted, ← haccepted]
  simp only [hrest]
  rfl

/-- The time at which a path is first reached. -/
def reachedAt (clockAt : Nat → Instant) (args : List String) (path : String) : Instant :=
  clockAt (args.findIdx fun arg => Text.trimmed arg = path)

theorem reachedAt_cons_of_eq (clockAt : Nat → Instant) (arg : String) (rest : List String) :
    reachedAt clockAt (arg :: rest) (Text.trimmed arg) = clockAt 0 := by
  simp [reachedAt, List.findIdx_cons]

theorem reachedAt_cons_of_ne {clockAt : Nat → Instant} {path : String}
    (h : Text.trimmed arg ≠ path) : reachedAt clockAt (arg :: rest) path =
      reachedAt (fun n => clockAt (n + 1)) rest path := by
  simp [reachedAt, List.findIdx_cons, h]

/-- Without failures the paths are queued and reported on as the bad ones say. -/
theorem enqueue_eq (hgranted : ∀ path ∈ wanted args, faults (.addNewCrawl path) = none)
    (clockAt : Nat → Instant) (hasSubdirs : Bool) (c : Catalog) :
    ∃ c', enqueue faults hasSubdirs clockAt args c = (.ok (reportOn c.isBad (wanted args)), c') ∧
      Queues (reachedAt clockAt args) hasSubdirs (wanted args) c c' := by
  induction args generalizing clockAt c with
  | nil => exact ⟨c, rfl, Catalog.queues_nothing c⟩
  | cons arg rest ih =>
    by_cases hblank : Text.trimmed arg = ""
    · rw [wanted_cons_of_blank hblank] at hgranted ⊢
      rw [enqueue_cons_of_blank clockAt hasSubdirs hblank]
      obtain ⟨c', hrest, hqueues⟩ := ih hgranted (fun n => clockAt (n + 1)) c
      refine ⟨c', hrest, hqueues.congr fun path hnew => reachedAt_cons_of_ne ?_⟩
      have hwanted : path ≠ "" := of_decide_eq_true (List.mem_filter.mp hnew.asked).2
      exact hblank ▸ hwanted.symm
    · rw [wanted_cons_of_ne hblank, List.forall_mem_cons] at hgranted
      have hfirst := Catalog.queues_addNewCrawl c (clockAt 0) (Text.trimmed arg) hasSubdirs
      obtain ⟨c', hrest, hqueues⟩ :=
        ih hgranted.2 (fun n => clockAt (n + 1)) (c.addNewCrawl (clockAt 0) _ hasSubdirs).2
      rw [hfirst.isBad_eq] at hrest
      have hfirst' : Queues (reachedAt clockAt (arg :: rest)) hasSubdirs _ c _ :=
        hfirst.congr fun path hnew =>
          List.mem_singleton.mp hnew.asked ▸ reachedAt_cons_of_eq clockAt arg rest
      have hqueues' : Queues (reachedAt clockAt (arg :: rest)) hasSubdirs _ _ c' :=
        hqueues.congr fun path hnew => reachedAt_cons_of_ne fun heq =>
          hfirst.not_isNew ⟨List.mem_singleton.mpr heq.symm, hnew.notBad, hnew.notStored,
            hnew.notQueued⟩
      refine ⟨c', ?_, wanted_cons_of_ne hblank ▸ hfirst'.append hqueues'⟩
      rw [enqueue_cons_of_ne hblank hgranted.1 hrest, wanted_cons_of_ne hblank, reportOn_cons]

/-- Where no path is new, the catalog stays as it is. -/
theorem enqueue_of_not_isNew (hgranted : ∀ path ∈ wanted args, faults (.addNewCrawl path) = none)
    (clockAt : Nat → Instant) (hasSubdirs : Bool)
    (hnone : ∀ path, ¬ c.IsNew (wanted args) path) :
    enqueue faults hasSubdirs clockAt args c = (.ok (reportOn c.isBad (wanted args)), c) := by
  induction args generalizing clockAt with
  | nil => rfl
  | cons arg rest ih =>
    by_cases hblank : Text.trimmed arg = ""
    · rw [wanted_cons_of_blank hblank] at hgranted hnone ⊢
      rw [enqueue_cons_of_blank clockAt hasSubdirs hblank]
      exact ih hgranted _ hnone
    · rw [wanted_cons_of_ne hblank] at hgranted hnone ⊢
      rw [List.forall_mem_cons] at hgranted
      have hrest : ∀ path, ¬ c.IsNew (wanted rest) path := fun path h =>
        hnone path { h with asked := List.mem_cons_of_mem _ h.asked }
      have hfirst : ¬ c.IsNew [Text.trimmed arg] (Text.trimmed arg) := fun h =>
        hnone _ { h with asked := List.mem_cons_self }
      rw [enqueue_cons_of_ne hblank hgranted.1, reportOn_cons]
      rw [Catalog.addNewCrawl_of_not_isNew hfirst]
      exact ih hgranted.2 _ hrest

theorem code_eq_zero_iff (report : Report) :
    (Outcome.finished report).code = 0 ↔ report.refused = [] := by
  simp [Outcome.code, Report.code]

/-- Without failures every path that is asked for is queued or refused, the bad ones are refused in
the order of the arguments, and the queue gains each of the others that is new, once and at the time
when it is first reached; nothing else changes. The same arguments again come to the same report and change nothing. The command line ends
with success if and only if no path was refused. -/
theorem paths_are_queued_once (faults : CatalogFaults) (clockAt : Nat → Instant)
    (hasSubdirs : Bool) (args : List String) (c : Catalog)
    (hgranted : ∀ path ∈ wanted args, faults (.addNewCrawl path) = none) :
    ∃ report c', enqueue faults hasSubdirs clockAt args c = (.ok report, c') ∧
      report.queued + report.refused.length =
        (args.filter fun arg => Text.trimmed arg ≠ "").length ∧
      report.refused = (wanted args).filter c.isBad ∧
      Queues (reachedAt clockAt args) hasSubdirs (wanted args) c c' ∧
      (∃ gained : List String, gained.Nodup ∧
        (∀ path, path ∈ gained ↔ c.IsNew (wanted args) path) ∧
        c'.queue.keys.Perm (c.queue.keys ++ gained)) ∧
      (∀ clockAt' hasSubdirs', enqueue faults hasSubdirs' clockAt' args c' = (.ok report, c')) ∧
      ((Outcome.finished report).code = 0 ↔ report.refused = []) ∧
      ∀ dbDir d place, d.openCatalog (Disk.join (d.absolute dbDir) "catalog.db") = .ok (place, c) →
        runIn faults clockAt dbDir hasSubdirs args d =
          (.finished report, d.put place (.catalog c')) := by
  obtain ⟨c', hrun, hqueues⟩ := enqueue_eq hgranted clockAt hasSubdirs c
  refine ⟨_, c', hrun, ?_, rfl, hqueues, hqueues.exists_gained, ?_, code_eq_zero_iff _, ?_⟩
  · rw [queued_add_refused, length_wanted]
  · intro clockAt' hasSubdirs'
    rw [enqueue_of_not_isNew hgranted clockAt' hasSubdirs' fun path => hqueues.not_isNew,
      hqueues.isBad_eq]
  · intro dbDir d place hopened
    simp only [runIn, hopened, hrun]

/-- A bad path is among those that are asked for, and another one stands twice. -/
def askedTwice : List String := ["a", " ", "gone", "a\n"]

/-- A catalog that knows nothing but one bad path. -/
def goneOnly : Catalog := ({} : Catalog).markBad .epoch "gone"

theorem isNew_askedTwice_iff {path : String} :
    goneOnly.IsNew (wanted askedTwice) path ↔ path = "a" := by
  have hwanted : wanted askedTwice = ["a", "gone", "a"] := by decide
  have hbad : goneOnly.isBad path = true ↔ path = "gone" := by
    rw [goneOnly, Catalog.isBad, Catalog.markBad, Table.contains_put]
    simp [Table.contains, Table.find?_empty]
  rw [Catalog.isNew_iff, hwanted, hbad]
  constructor
  · rintro ⟨hasked, hgone, -⟩
    simpa [hgone] using hasked
  · rintro rfl
    exact ⟨by simp, by decide, by decide, by decide⟩

theorem path_asked_twice_is_queued_once :
    (∀ path ∈ wanted askedTwice, (fun _ => none : CatalogFaults) (.addNewCrawl path) = none) ∧
      ∃ report c',
        enqueue (fun _ => none) true (fun _ => .epoch) askedTwice goneOnly = (.ok report, c') ∧
        report.queued = 2 ∧ report.refused = ["gone"] ∧ (Outcome.finished report).code ≠ 0 ∧
        c'.queue.keys = ["a"] := by
  have hgranted : ∀ path ∈ wanted askedTwice, (fun _ => none : CatalogFaults)
      (.addNewCrawl path) = none := fun _ _ => rfl
  obtain ⟨report, c', hrun, hcount, hrefused, -, ⟨gained, hnodup, hnew, hperm⟩, -, hcode, -⟩ :=
    paths_are_queued_once (fun _ => none) (fun _ => .epoch) true askedTwice goneOnly hgranted
  have hgone : report.refused = ["gone"] := hrefused.trans (by decide)
  have hthree : (askedTwice.filter fun arg => Text.trimmed arg ≠ "").length = 3 := by decide
  refine ⟨hgranted, report, c', hrun, ?_, hgone, ?_, ?_⟩
  · rw [hgone, hthree] at hcount
    exact Nat.succ.inj hcount
  · rw [ne_eq, hcode, hgone]
    decide
  · have hone : gained.Perm ["a"] := by
      refine (List.perm_ext_iff_of_nodup hnodup (by simp)).mpr fun path => ?_
      rw [hnew, isNew_askedTwice_iff, List.mem_singleton]
    exact List.perm_singleton.mp (hperm.trans hone)

end Enqueue

end PackageIndex
