import PackageIndex.Proofs.Crawl.Progress
import PackageIndex.Proofs.Errand
/-!
Crawls come to rest. As long as nothing fails and no document leads past the package that it was
found for, a run that has something to do leaves less of it: the path that it took from the queue
is gone from there, or the package that it refreshed rests, and no other package becomes due.
-/
namespace PackageIndex.Crawl

/-- What a fetcher may answer: a failure, nothing, or a document for the path and, where a package
is stored, of its project. -/
inductive Answers (request : FetchRequest) : Except Failure (Option Document) → Prop
  | failure (reason : String) : Answers request (.error (.error reason))
  | nothing : Answers request (.ok none)
  | document {d : Document} :
      d.importPath = request.importPath →
      (∀ prior, request.prior = some prior → d.projectRoot = prior.projectRoot) →
      Answers request (.ok (some d))

/-- No operation fails, and the fetcher answers for what it was asked. -/
structure Surroundings.Answering (s : Surroundings) : Prop where
  faults : ∀ op, s.faults op = none
  later : ∀ op, s.later op = none
  answers : ∀ request, Answers request (s.fetch request)

/-- The packages whose time has come. -/
def duePaths (now : Instant) (c : Catalog) : List String :=
  (c.packages.rows.filter fun r => ¬ now < Instant.ofUnix r.2.nextCrawl).map Prod.fst

/-- How much there is to do. -/
def backlog (now : Instant) (c : Catalog) : Nat :=
  c.queue.keys.length + (duePaths now c).length

variable {settings : CrawlSettings} {now : Instant} {c c' : Catalog} {path : String}

theorem mem_duePaths : path ∈ duePaths now c ↔ ¬ Rests now path c := by
  simp only [duePaths, List.mem_map, List.mem_filter, Rests, not_forall, decide_eq_true_eq]
  constructor
  · rintro ⟨⟨_, row⟩, ⟨hrow, hdue⟩, rfl⟩
    exact ⟨row, Table.mem_rows_iff.mp hrow, hdue⟩
  · rintro ⟨row, hrow, hdue⟩
    exact ⟨(path, row), ⟨Table.mem_rows_iff.mpr hrow, hdue⟩, rfl⟩

theorem duePaths_nodup (now : Instant) (c : Catalog) : (duePaths now c).Nodup :=
  c.packages.keys_nodup.sublist (List.filter_sublist.map Prod.fst)

/-- Every row of the second catalog is one of the first, or has a time that is still to come. -/
def RowsAhead (now : Instant) (c c' : Catalog) : Prop :=
  ∀ path row, c'.packages.find? path = some row →
    c.packages.find? path = some row ∨ Ahead now row.nextCrawl

theorem RowsAhead.duePaths_subset (h : RowsAhead now c c') :
    duePaths now c' ⊆ duePaths now c := by
  intro path hpath
  rw [mem_duePaths] at *
  intro hrests
  apply hpath
  intro row hrow
  rcases h path row hrow with hbefore | hahead
  · exact hrests row hbefore
  · exact Instant.lt_ofUnix hahead.1 hahead.2

theorem RowsAhead.duePaths_length_le (h : RowsAhead now c c') :
    (duePaths now c').length ≤ (duePaths now c).length :=
  ((duePaths_nodup now c').subperm h.duePaths_subset).length_le

/-- A package that was due and rests makes one less. -/
theorem RowsAhead.duePaths_length_lt (h : RowsAhead now c c') (hdue : ¬ Rests now path c)
    (hrests : Rests now path c') : (duePaths now c').length < (duePaths now c).length := by
  rw [← mem_duePaths] at hdue
  have hsubset : duePaths now c' ⊆ (duePaths now c).erase path := by
    intro path' hpath'
    rw [(duePaths_nodup now c).mem_erase_iff]
    refine ⟨?_, h.duePaths_subset hpath'⟩
    rintro rfl
    exact mem_duePaths.mp hpath' hrests
  have hle := ((duePaths_nodup now c').subperm hsubset).length_le
  rw [List.length_erase_of_mem hdue] at hle
  have hpos := List.length_pos_of_mem hdue
  omega

theorem NewOutcome.exists_outcome {faults : CatalogFaults} {clock : Instant}
    {request : FetchRequest} {answer : Except Failure (Option Document)}
    {exit : Except Interruption CrawlOutcome}
    (h : NewOutcome settings faults clock now path c answer exit c')
    (hanswers : Answers request answer) : ∃ outcome, exit = .ok outcome := by
  cases h with
  | crashed => cases hanswers
  | stored | notStored | markedBad | notMarked | notFetched => exact ⟨_, rfl⟩

theorem RefreshOutcome.exists_outcome {faults later : CatalogFaults} {prior : Record}
    {request : FetchRequest} {answer : Except Failure (Option Document)}
    {exit : Except Interruption CrawlOutcome}
    (h : RefreshOutcome settings faults later now prior c answer exit c')
    (hanswers : Answers request answer) : ∃ outcome, exit = .ok outcome := by
  cases h with
  | crashed => cases hanswers
  | removed | notModified | refreshed | notWritten | notFetched => exact ⟨_, rfl⟩

section

variable (hage : 1 ≤ settings.maxAge.secs) (hnow : now.secs < Instant.latest.secs)
include hage hnow

theorem NewOutcome.rowsAhead {faults : CatalogFaults} {clock : Instant}
    {answer : Except Failure (Option Document)} {exit : Except Interruption CrawlOutcome}
    (h : NewOutcome settings faults clock now path c answer exit c') : RowsAhead now c c' := by
  cases h with
  | stored _ hstores => exact (onlyAhead_of_stores hstores (ahead_after hnow hage)).rows
  | markedBad _ hmarks => exact fun path row hrow => .inl (hmarks.packages ▸ hrow)
  | notStored | notMarked | notFetched | crashed => exact fun _ _ => .inl

omit hage hnow in
theorem NewOutcome.queue_le {faults : CatalogFaults} {clock : Instant}
    {answer : Except Failure (Option Document)} {exit : Except Interruption CrawlOutcome}
    (h : NewOutcome settings faults clock now path c answer exit c') :
    c'.queue.keys.length ≤ c.queue.keys.length := by
  cases h with
  | stored _ hstores =>
      rw [Table.sets_none_iff.mp hstores.queue]
      exact Table.length_keys_erase_le _ _
  | markedBad _ hmarks =>
      rw [Table.sets_none_iff.mp hmarks.queue]
      exact Table.length_keys_erase_le _ _
  | notStored | notMarked | notFetched | crashed => exact Nat.le_refl _

/-- A path that came out of the queue does not wait any more, whatever came of it. -/
theorem backlog_lt_of_newOutcome {faults : CatalogFaults} {clock : Instant} {row : QueueRow}
    {c₁ : Catalog} {answer : Except Failure (Option Document)}
    {exit : Except Interruption CrawlOutcome} (hfirst : c.queue.First (·.queuedAt) path row)
    (hdequeues : c.Dequeues path c₁)
    (hnew : NewOutcome settings faults clock now path c₁ answer exit c') :
    backlog now c' < backlog now c := by
  have hqueue : c₁.queue.keys.length < c.queue.keys.length := by
    rw [Table.sets_none_iff.mp hdequeues.queue]
    exact Table.length_keys_erase_lt hfirst.stored
  have hrows : RowsAhead now c c' := by
    intro path row hrow
    have hahead := hnew.rowsAhead hage hnow path row hrow
    rwa [hdequeues.packages] at hahead
  have hdue := hrows.duePaths_length_le
  have hqueue' := hnew.queue_le
  simp only [backlog]
  omega

omit hage in
/-- A failed refresh puts off at least the package that was to be refreshed. -/
theorem PutOff.rests {later : CatalogFaults} {prior : Record} {row : PackageRow}
    (h : PutOff settings later now prior c c') (hlater : ∀ op, later op = none)
    (hrow : c.packages.find? prior.importPath = some row)
    (hread : row.record? prior.importPath = some prior) : Rests now prior.importPath c' := by
  obtain ⟨_, hroot, hetag, _⟩ := record?_fields hread
  cases h with
  | moved _ hmoved =>
      have hahead : Ahead now (now.after settings.retryDelay).secs :=
        ahead_after hnow (one_le_retryDelay settings)
      intro row' hrow'
      rw [hmoved.moved _ _ hrow ⟨hroot.symm, hetag.symm⟩] at hrow'
      cases hrow'
      exact Instant.lt_ofUnix hahead.1 hahead.2
  | refused hrefused => simp [hlater] at hrefused

/-- A package that was refreshed, or tried in vain, rests. -/
theorem rests_of_answers {s : Surroundings} (hs : s.Answering) {prior : Record} {row : PackageRow}
    {request : FetchRequest} {exit : Except Interruption CrawlOutcome}
    (hasks : AsksAbout c prior request)
    (h : RefreshOutcome settings s.faults s.later now prior c (s.fetch request) exit c')
    (hrow : c.packages.find? prior.importPath = some row)
    (hread : row.record? prior.importPath = some prior) :
    Rests now prior.importPath c' := by
  have hanswers := hs.answers request
  generalize s.fetch request = answer at h hanswers
  cases hanswers with
  | failure reason =>
      cases h with
      | notFetched hput => exact hput.rests hnow hs.later hrow hread
  | nothing =>
      refine h.rests hage hnow hs.faults hrow hread fun d hd => ?_
      cases hd
  | @document d hpath hroot =>
      refine h.rests hage hnow hs.faults hrow hread fun d' hd' => ?_
      obtain rfl := Option.some.inj hd'
      have hroot' := hroot _ hasks.prior
      have hpath' := hpath.trans hasks.importPath
      rw [Strays]
      split
      · exact not_not_intro hroot'
      · exact not_not_intro hpath'

theorem backlog_lt_of_refresh {s : Surroundings} (hs : s.Answering) {prior : Record}
    {row : PackageRow} {request : FetchRequest} {exit : Except Interruption CrawlOutcome}
    (hempty : ∀ path, c.queue.find? path = none) (hdue : ¬ now < prior.nextCrawl)
    (hasks : AsksAbout c prior request)
    (h : RefreshOutcome settings s.faults s.later now prior c (s.fetch request) exit c')
    (hrow : c.packages.find? prior.importPath = some row)
    (hread : row.record? prior.importPath = some prior) :
    backlog now c' < backlog now c := by
  have honly : OnlyAhead now c c' := h.onlyAhead hage hnow
  have hqueue : c'.queue.keys = [] := by
    rw [Table.keys, Table.rows_eq_nil_iff.mpr (honly.queue hempty), List.map_nil]
  have hnotRests : ¬ Rests now prior.importPath c := by
    obtain ⟨_, _, _, htime⟩ := record?_fields hread
    intro hrests
    exact hdue (htime ▸ hrests row hrow)
  have hless := RowsAhead.duePaths_length_lt honly.rows hnotRests
    (rests_of_answers hage hnow hs hasks h hrow hread)
  simp only [backlog, hqueue, List.length_nil]
  omega

/-- A run ends with an outcome, and unless that is to be idle it leaves less to do. -/
theorem run_ends {s : Surroundings} (hs : s.Answering) (hwritten : c.Written) :
    (∃ outcome, (runIn settings now s c).exit = .ok outcome) ∧
      ((runIn settings now s c).exit ≠ .ok .idle →
        backlog now (runIn settings now s c).catalog < backlog now c) := by
  have hrun := runIn_transition settings now s c
  generalize runIn settings now s c = result at hrun
  cases hrun with
  | notPopped hpop => simp [hs.faults] at hpop
  | notSearched _ _ hsearch => simp [hs.faults] at hsearch
  | empty | notDue => exact ⟨⟨_, rfl⟩, fun hidle => absurd rfl hidle⟩
  | @unreadable path row _ _ _ hfirst hread =>
      obtain ⟨r, hrecord, _⟩ := (hwritten path row hfirst.stored).exists_record
      rw [hread] at hrecord
      cases hrecord
  | @new path row exit c₁ c' _ hfirst hdequeues hnew =>
      exact ⟨hnew.exists_outcome (hs.answers _),
        fun _ => backlog_lt_of_newOutcome hage hnow hfirst hdequeues hnew⟩
  | @refresh path row r request exit c' _ hempty _ hfirst hread hdue hasks hrefresh =>
      obtain ⟨rfl, _⟩ := record?_fields hread
      exact ⟨hrefresh.exists_outcome (hs.answers request), fun _ =>
        backlog_lt_of_refresh hage hnow hs hempty hdue hasks hrefresh hfirst.stored hread⟩

end

theorem leads_runs (settings : CrawlSettings) (now : Instant) (surroundings : List Surroundings)
    (c : Catalog) : Catalog.Leads c (runs settings now surroundings c) := by
  induction surroundings generalizing c with
  | nil => exact .refl
  | cons s surroundings ih =>
      exact (leads_transition (runIn_transition settings now s c)).trans (ih _)

/-- The first runs of a sequence of them. -/
def firstRuns (settings : CrawlSettings) (now : Instant) (surroundings : Nat → Surroundings)
    (n : Nat) (c : Catalog) : Catalog :=
  runs settings now ((List.range n).map surroundings) c

theorem firstRuns_succ (settings : CrawlSettings) (now : Instant)
    (surroundings : Nat → Surroundings) (n : Nat) (c : Catalog) :
    firstRuns settings now surroundings (n + 1) c =
      (runIn settings now (surroundings n) (firstRuns settings now surroundings n c)).catalog := by
  simp only [firstRuns, runs, List.range_succ, List.map_append, List.foldl_append, List.map_cons,
    List.map_nil, List.foldl_cons, List.foldl_nil]

/-- Runs at one time come to rest. Let no operation fail, and let every answer be a failure,
nothing, or a document for the path and of the project that it was asked about. Then every run
has an outcome; a run that is not idle leaves strictly less to do, and after at most as many runs
as there were paths waiting and packages due a run is idle. -/
theorem runs_come_to_rest (settings : CrawlSettings) (now : Instant) (c : Catalog)
    (surroundings : Nat → Surroundings) (h : Catalog.Leads {} c)
    (hage : 1 ≤ settings.maxAgeHours) (hnow : (now.after? settings.maxAge).isSome)
    (hs : ∀ n, (surroundings n).Answering) :
    let run := fun n =>
      runIn settings now (surroundings n) (firstRuns settings now surroundings n c)
    (∀ n, (∃ outcome, (run n).exit = .ok outcome) ∧
      ((run n).exit ≠ .ok .idle →
        backlog now (run n).catalog < backlog now (firstRuns settings now surroundings n c))) ∧
    ∃ n ≤ backlog now c, (run n).exit = .ok .idle := by
  intro run
  have hmaxAge : 1 ≤ settings.maxAge.secs := one_le_maxAge hage
  have hlatest : now.secs < Instant.latest.secs := secs_lt_latest hnow hmaxAge
  have hwritten (n : Nat) : (firstRuns settings now surroundings n c).Written :=
    Catalog.written_of_leads (h.trans (leads_runs settings now _ c))
  have hends (n : Nat) := run_ends hmaxAge hlatest (hs n) (hwritten n)
  refine ⟨hends, ?_⟩
  apply Classical.byContradiction
  intro hbusy
  -- Each run that is not idle takes one off the backlog, so it would be used up too early.
  have hleft : ∀ n ≤ backlog now c + 1,
      backlog now (firstRuns settings now surroundings n c) + n ≤ backlog now c := by
    intro n hn
    induction n with
    | zero => exact Nat.le_refl _
    | succ n ih =>
        have hidle : (run n).exit ≠ .ok .idle := fun hidle => hbusy ⟨n, by omega, hidle⟩
        have hless := (hends n).2 hidle
        have hbefore := ih (by omega)
        rw [firstRuns_succ]
        omega
  have hover := hleft (backlog now c + 1) (Nat.le_refl _)
  omega

/-- A package that is due, and a path that waits. -/
def waitingAndDue : Catalog := (oneDue.addNewCrawl .epoch "q" false).2

/-- Nothing is found for a new path, and what is stored cannot be fetched. -/
def unavailable : Surroundings where
  fetch := fun request => if request.prior = none then .ok none else .error (.error "down")

theorem answering_unavailable : unavailable.Answering := by
  refine ⟨fun _ => rfl, fun _ => rfl, fun request => ?_⟩
  simp only [unavailable]
  split
  · exact .nothing
  · exact .failure "down"

/-- Even with nothing but failures, two runs are enough for a path and a package. -/
theorem two_runs_are_enough :
    ∃ n ≤ 2, (runIn {} ⟨200, 0⟩ unavailable
      (firstRuns {} ⟨200, 0⟩ (fun _ => unavailable) n waitingAndDue)).exit = .ok .idle :=
  (runs_come_to_rest {} ⟨200, 0⟩ waitingAndDue (fun _ => unavailable)
    (.tail (.single (.put dueDocument _ false)) (.addNewCrawl .epoch "q" false)) (by decide)
    (by decide) (fun _ => answering_unavailable)).2

end PackageIndex.Crawl
