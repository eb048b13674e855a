import PackageIndex.Proofs.RunHistory
/-!
What the run history gives back of what was noted in it. A history that starts and ends of runs
were noted in holds the runs themselves, each as its row: what is written of a time is read as
that time, and times are in order as their texts are. So the runs of a job come back ranked by
their starts, however the clock went, and a limit cuts off the older ones; one that is read as
a negative number cuts off none.
-/
namespace PackageIndex

namespace Run

variable {a b c run : Run}

/-- The times of the run can be written down. -/
structure Writable (run : Run) : Prop where
  started : run.startedAt.Writable
  finished : ∀ t, run.finishedAt = some t → t.Writable

/-- The row that the run is kept as. -/
def row (run : Run) : RunRow :=
  { jobId := run.jobId
    startedAt := run.startedAt.stamp
    finishedAt := run.finishedAt.map Instant.stamp
    status := run.status.text
    message := run.message
    trigger := run.trigger }

theorem run_row (h : run.Writable) : run.row.run run.id = run := by
  have hfinished : (run.finishedAt.map Instant.stamp).bind Instant.ofStamp? = run.finishedAt := by
    cases hend : run.finishedAt with
    | none => rfl
    | some t => rw [Option.map_some, Option.bind_some, Instant.ofStamp?_stamp (h.finished t hend)]
  rw [RunRow.run, row, hfinished, Instant.ofStamp?_stamp h.started, RunStatus.ofText?_text]
  rfl

/-- The later start is newer, and of equal starts the greater number. -/
def NewerThan (a b : Run) : Prop :=
  b.startedAt < a.startedAt ∨ a.startedAt = b.startedAt ∧ b.id < a.id

theorem NewerThan.asymm (h : a.NewerThan b) : ¬ b.NewerThan a := by
  simp only [NewerThan, Instant.lt_def] at *
  grind

/-- What the history asks of two rows: whether the first may stand before the second. -/
def mayPrecede (a b : Run) : Bool := RunHistory.newerFirst (a.id, a.row) (b.id, b.row)

theorem mayPrecede_iff (ha : a.Writable) (hb : b.Writable) :
    a.mayPrecede b = true ↔ a.NewerThan b ∨ a.startedAt = b.startedAt ∧ a.id = b.id := by
  have hlater : b.startedAt.stamp < a.startedAt.stamp ↔ b.startedAt < a.startedAt :=
    Instant.stamp_lt_stamp_iff hb.started ha.started.clock ha.started.year.2
  have hsame : a.startedAt.stamp = b.startedAt.stamp ↔ a.startedAt = b.startedAt :=
    Instant.stamp_inj ha.started hb.started
  simp only [mayPrecede, RunHistory.newerFirst, row, Bool.or_eq_true, Bool.and_eq_true,
    decide_eq_true_eq, hlater, hsame, NewerThan, Int.le_iff_lt_or_eq]
  grind

end Run

namespace RunHistory

section Ranking

variable {a b c : Int × RunRow}

theorem newerFirst_trans (h : newerFirst a b = true) (h' : newerFirst b c = true) :
    newerFirst a c = true := by
  have htrans := @String.lt_trans c.2.startedAt b.2.startedAt a.2.startedAt
  simp only [newerFirst, Bool.or_eq_true, Bool.and_eq_true, decide_eq_true_eq] at *
  grind

theorem newerFirst_total (a b : Int × RunRow) : (newerFirst a b || newerFirst b a) = true := by
  have htotal := @KeyOrder.eq_of_not_lt String _ _ a.2.startedAt b.2.startedAt
  simp only [newerFirst, Bool.or_eq_true, Bool.and_eq_true, decide_eq_true_eq]
  grind

theorem mayPrecede_trans {a b c : Run} (h : a.mayPrecede b = true) (h' : b.mayPrecede c = true) :
    a.mayPrecede c = true :=
  newerFirst_trans h h'

theorem mayPrecede_total (a b : Run) : (a.mayPrecede b || b.mayPrecede a) = true :=
  newerFirst_total (a.id, a.row) (b.id, b.row)

end Ranking

theorem limited_eq {limit : UInt64} {runs : List Run} (h : runs.length ≤ maxId) :
    limited limit runs = runs.take (min limit.toNat runs.length) := by
  have hsigned : limit.toInt64 < 0 ↔ 18446744073709551616 ≤ 2 * limit.toNat :=
    Int64.lt_iff_toInt_lt.trans BitVec.toInt_neg_iff
  rw [limited]
  split
  next hnegative =>
    have hall : runs.length ≤ limit.toNat := by
      have := hsigned.mp hnegative
      simp only [maxId] at h
      omega
    rw [Nat.min_eq_right hall, List.take_length]
  next => exact List.take_eq_take_min

/-- What can be noted of a run, with the time of the clock. -/
inductive Note where
  | start (clock : Instant) (jobId trigger : String)
  | finish (clock : Instant) (id : Int) (status : RunStatus) (message : Option String)

def Note.clock : Note → Instant
  | start clock _ _ => clock
  | finish clock _ _ _ => clock

/-- A start that finds no free number is not noted. -/
def note (h : RunHistory) : Note → RunHistory
  | .start clock jobId trigger => ((h.start clock jobId trigger).map Prod.snd).getD h
  | .finish clock id status message => h.finish clock id status message

/-- The history in which the notes were made, the first note first. -/
def noteAll (notes : List Note) : RunHistory := notes.foldl note {}

/-- A start adds a run, which has the next number; an end is entered in the run with its
number. -/
def enter (runs : List Run) : Note → List Run
  | .start clock jobId trigger =>
    runs ++ [{ id := runs.length + 1, jobId, startedAt := clock, finishedAt := none
               status := .running, message := none, trigger }]
  | .finish clock id status message =>
    runs.map fun run => if run.id = id then { run with finishedAt := some clock, status, message }
      else run

/-- The runs that the notes tell of, in the order of their numbers. -/
def recorded (notes : List Note) : List Run := notes.foldl enter []

/-- The runs are numbered from one on. -/
def Numbered (runs : List Run) : Prop :=
  runs.map Run.id = (List.range runs.length).map fun i : Nat => (i : Int) + 1

/-- The history holds the runs. -/
structure Holds (h : RunHistory) (runs : List Run) : Prop where
  rows : h.rows.rows = runs.map fun run => (run.id, run.row)
  numbers : Numbered runs
  writable : ∀ run ∈ runs, run.Writable

variable {h : RunHistory} {runs : List Run} {n : Note} {notes : List Note}

theorem Numbered.le (hn : Numbered runs) {run : Run} (hrun : run ∈ runs) :
    run.id ≤ runs.length := by
  have hmem := List.mem_map_of_mem (f := Run.id) hrun
  rw [hn] at hmem
  obtain ⟨i, hi, hid⟩ := List.mem_map.mp hmem
  have := List.mem_range.mp hi
  omega

/-- The greatest number counts the runs. -/
theorem Numbered.length_le (hn : Numbered runs) (hnumbers : ∀ run ∈ runs, run.id ≤ maxId) :
    runs.length ≤ maxId := by
  cases hlength : runs.length with
  | zero => exact Nat.zero_le _
  | succ k =>
    have hlast : (k : Int) + 1 ∈ runs.map Run.id := by
      rw [hn, hlength]
      exact List.mem_map.mpr ⟨k, List.mem_range.mpr (Nat.lt_succ_self k), rfl⟩
    obtain ⟨run, hrun, hid⟩ := List.mem_map.mp hlast
    have := hnumbers run hrun
    omega

theorem Numbered.enter (hn : Numbered runs) (n : Note) : Numbered (enter runs n) := by
  cases n with
  | start clock jobId trigger =>
    rw [Numbered] at hn
    simp only [Numbered, RunHistory.enter, List.map_append, List.length_append, hn,
      List.length_singleton, List.range_succ, List.map_singleton]
  | finish clock id status message =>
    rw [Numbered, RunHistory.enter, List.map_map, List.length_map, ← hn]
    apply List.map_congr_left
    intro run _
    simp only [Function.comp_apply]
    split <;> rfl

theorem Numbered.enterAll (hn : Numbered runs) (notes : List Note) :
    Numbered (notes.foldl RunHistory.enter runs) := by
  induction notes generalizing runs with
  | nil => exact hn
  | cons n notes ih => exact ih (hn.enter n)

theorem length_le_length_enter (runs : List Run) (n : Note) :
    runs.length ≤ (enter runs n).length := by
  cases n <;> simp [enter]

/-- Notes take no run away. -/
theorem length_le_length_enterAll (runs : List Run) (notes : List Note) :
    runs.length ≤ (notes.foldl enter runs).length := by
  induction notes generalizing runs with
  | nil => exact Nat.le_refl _
  | cons n notes ih => exact Nat.le_trans (length_le_length_enter runs n) (ih _)

theorem Holds.keys (hh : h.Holds runs) : h.rows.keys = runs.map Run.id := by
  rw [Table.keys, hh.rows, List.map_map]
  rfl

theorem Holds.nextId_eq (hh : h.Holds runs) : h.nextId = runs.length + 1 := by
  rw [nextId, hh.keys, hh.numbers]
  cases runs.length with
  | zero => rfl
  | succ k => simp [List.range_succ]

/-- What a note tells is held as long as there are numbers for it. -/
theorem Holds.note (hh : h.Holds runs) (hclock : n.clock.Writable)
    (hroom : (enter runs n).length ≤ maxId) : (h.note n).Holds (enter runs n) := by
  cases n with
  | start clock jobId trigger =>
    have hbeyond : ∀ id ∈ h.rows.keys, id < h.nextId := by
      rw [hh.keys, hh.nextId_eq, List.forall_mem_map]
      intro run hrun
      have := hh.numbers.le hrun
      omega
    have hfree : h.freeId? = some h.nextId := by
      apply freeId?_of_le
      rw [hh.nextId_eq]
      simp only [enter, List.length_append, List.length_singleton] at hroom
      omega
    refine ⟨?_, hh.numbers.enter _, ?_⟩
    · rw [RunHistory.note, start, hfree, Option.map_some, Option.map_some, Option.getD_some,
        withRow, Table.rows_put_of_beyond hbeyond, hh.rows, hh.nextId_eq, enter, List.map_append]
      rfl
    · intro run hrun
      rcases List.mem_append.mp hrun with hold | hnew
      · exact hh.writable run hold
      · obtain rfl := List.mem_singleton.mp hnew
        exact ⟨hclock, nofun⟩
  | finish clock id status message =>
    refine ⟨?_, hh.numbers.enter _, ?_⟩
    · simp only [RunHistory.note, finish, Table.adjust, hh.rows, enter, List.map_map]
      apply List.map_congr_left
      intro run _
      simp only [Function.comp_apply]
      split <;> rfl
    · intro run hrun
      obtain ⟨run, hold, rfl⟩ := List.mem_map.mp hrun
      have hwritable := hh.writable run hold
      split
      · refine ⟨hwritable.started, fun t ht => ?_⟩
        obtain rfl := Option.some.inj ht
        exact hclock
      · exact hwritable

theorem numbered_recorded (notes : List Note) : Numbered (recorded notes) :=
  (show Numbered [] from rfl).enterAll notes

theorem Holds.noteAll (hh : h.Holds runs) (hclocks : ∀ n ∈ notes, n.clock.Writable)
    (hroom : (notes.foldl enter runs).length ≤ maxId) :
    (notes.foldl RunHistory.note h).Holds (notes.foldl enter runs) := by
  induction notes generalizing h runs with
  | nil => exact hh
  | cons n notes ih =>
    rw [List.forall_mem_cons] at hclocks
    have hfirst := Nat.le_trans (length_le_length_enterAll (enter runs n) notes) hroom
    exact ih (hh.note hclocks.1 hfirst) hclocks.2 hroom

theorem holds_noteAll (hclocks : ∀ n ∈ notes, n.clock.Writable)
    (hroom : (recorded notes).length ≤ maxId) : (noteAll notes).Holds (recorded notes) :=
  Holds.noteAll ⟨rfl, rfl, nofun⟩ hclocks hroom

/-- Rows are in order as the runs that they are of. -/
theorem mergeSort_rows (runs : List Run) :
    (runs.map fun run => (run.id, run.row)).mergeSort newerFirst =
      (runs.mergeSort Run.mayPrecede).map fun run => (run.id, run.row) :=
  (List.map_mergeSort (f := fun run : Run => (run.id, run.row)) fun _ _ _ _ => rfl).symm

/-- A job's runs, as the history hands them out. -/
theorem Holds.ofJob_eq (hh : h.Holds runs) (jobId : String) :
    h.ofJob jobId = (runs.filter (·.jobId = jobId)).mergeSort Run.mayPrecede := by
  have hread : ∀ run ∈ (runs.filter (·.jobId = jobId)).mergeSort Run.mayPrecede,
      run.row.run run.id = run := by
    intro run hrun
    have hrun := (List.mem_filter.mp ((List.mergeSort_perm _ _).mem_iff.mp hrun)).1
    exact Run.run_row (hh.writable run hrun)
  calc h.ofJob jobId
      = (((runs.filter (·.jobId = jobId)).map fun run => (run.id, run.row)).mergeSort
          newerFirst).map fun r => r.2.run r.1 := by
        rw [ofJob, hh.rows, List.filter_map]
        rfl
    _ = ((runs.filter (·.jobId = jobId)).mergeSort Run.mayPrecede).map
          fun run => run.row.run run.id := by
        rw [mergeSort_rows, List.map_map]
        rfl
    _ = (runs.filter (·.jobId = jobId)).mergeSort Run.mayPrecede := by
        rw [List.map_congr_left hread, List.map_id']

/-- The runs are the listed ones, the newest first. -/
structure Ranks (ranked runs : List Run) : Prop where
  perm : ranked.Perm runs
  newer : ranked.Pairwise Run.NewerThan

theorem Ranks.unique {ranked ranked' : List Run} (h : Ranks ranked runs)
    (h' : Ranks ranked' runs) : ranked = ranked' :=
  List.Perm.eq_of_pairwise (fun _ _ _ _ hab hba => absurd hba hab.asymm) h.newer h'.newer
    (h.perm.trans h'.perm.symm)

theorem Holds.ranks (hh : h.Holds runs) (jobId : String) :
    Ranks (h.ofJob jobId) (runs.filter (·.jobId = jobId)) := by
  have hperm : (h.ofJob jobId).Perm (runs.filter (·.jobId = jobId)) := by
    rw [hh.ofJob_eq]
    exact List.mergeSort_perm _ _
  have hdistinct : (h.ofJob jobId).Pairwise fun a b => a.id ≠ b.id := by
    have hascending : runs.Pairwise fun a b => a.id ≠ b.id := by
      rw [← List.pairwise_map (R := fun a b => a ≠ b), ← hh.keys]
      exact h.rows.keys_nodup
    exact (hperm.pairwise_iff Ne.symm).mpr (hascending.filter _)
  have hsorted : (h.ofJob jobId).Pairwise fun a b => a.mayPrecede b = true := by
    rw [hh.ofJob_eq]
    exact @List.pairwise_mergeSort _ Run.mayPrecede (fun _ _ _ => mayPrecede_trans)
      mayPrecede_total _
  have hwritable : ∀ run ∈ h.ofJob jobId, run.Writable := fun run hrun =>
    hh.writable run (List.mem_filter.mp (hperm.mem_iff.mp hrun)).1
  refine ⟨hperm, (hdistinct.and hsorted).imp_of_mem fun ha hb ⟨hne, hle⟩ => ?_⟩
  rcases (Run.mayPrecede_iff (hwritable _ ha) (hwritable _ hb)).mp hle with hnewer | ⟨-, heq⟩
  · exact hnewer
  · exact absurd heq hne

/-- The runs of a job are the recorded ones with the times, the status and the message that were
noted, ranked by their starts and then by their numbers, whatever the clock showed between the
notes. Every limit gives the newest of them, as many as it allows; the last run is the newest. -/
theorem recent_runs_are_the_newest_recorded (hclocks : ∀ n ∈ notes, n.clock.Writable)
    (hnumbers : ∀ run ∈ recorded notes, run.id ≤ maxId) (jobId : String) :
    ∃ ranked, Ranks ranked ((recorded notes).filter (·.jobId = jobId)) ∧
      (∀ limit, (noteAll notes).recent jobId limit =
        ranked.take (min limit.toNat ((recorded notes).filter (·.jobId = jobId)).length)) ∧
      (noteAll notes).last? jobId = ranked.head? ∧
      ((noteAll notes).last? jobId = none ↔ ∀ run ∈ recorded notes, run.jobId ≠ jobId) := by
  have hroom := (numbered_recorded notes).length_le hnumbers
  have hh := holds_noteAll hclocks hroom
  have hranks := hh.ranks jobId
  have hcount : ((recorded notes).filter (·.jobId = jobId)).length ≤ maxId :=
    Nat.le_trans (List.length_filter_le _ _) hroom
  refine ⟨_, hranks, fun limit => ?_, rfl, ?_⟩
  · rw [recent, limited_eq (by rwa [hranks.perm.length_eq]), hranks.perm.length_eq]
  · rw [last?, List.head?_eq_none_iff, ← List.length_eq_zero_iff, hranks.perm.length_eq,
      List.length_eq_zero_iff, List.filter_eq_nil_iff]
    simp only [decide_eq_true_eq]

/-- Two runs of a job, the second begun after the clock was set back and ended since. -/
def clockSetBack : List Note :=
  [.start ⟨1700000000, 500000000⟩ "crawl" "schedule",
    .start ⟨1699999999, 0⟩ "crawl" "manual",
    .finish ⟨1699999999, 123000⟩ 2 .failed (some "gone")]

theorem run_before_clock_set_back_stays_last :
    ((noteAll clockSetBack).last? "crawl").map Run.id = some 1 ∧
      ((noteAll clockSetBack).recent "crawl" 18446744073709551615).map Run.finishedAt =
        [none, some ⟨1699999999, 123000⟩] := by
  have hclocks : ∀ n ∈ clockSetBack, n.clock.Writable := by decide
  obtain ⟨ranked, hranks, hrecent, hlast, -⟩ :=
    recent_runs_are_the_newest_recorded hclocks (by decide) "crawl"
  have hnewer : (recorded clockSetBack).Pairwise Run.NewerThan :=
    List.pairwise_pair.mpr (.inl (by decide))
  rw [hlast, hrecent, hranks.unique ⟨List.Perm.refl _, hnewer⟩]
  decide

end RunHistory
end PackageIndex
