import PackageIndex.Crawl
import PackageIndex.Proofs.Catalog.Below
import PackageIndex.Proofs.Catalog.Effects
import PackageIndex.Proofs.Catalog.Selection
/-!
One run of the crawl as a transition of the catalog. The relations say which row is chosen,
what is asked for it, and for every answer and every refusal of the catalog what becomes of the
rows. The run and the transition determine each other.
-/
namespace PackageIndex.Crawl

variable (settings : CrawlSettings) (fetch : Fetcher) (faults later : CatalogFaults)

/-- What becomes of a path that was taken from the queue, by the answer to its request. -/
inductive NewOutcome (clock now : Instant) (path : String) (c : Catalog) :
    Except Failure (Option Document) → Except Interruption CrawlOutcome → Catalog → Prop
  | stored {d : Document} {c' : Catalog} :
      faults (.put d.importPath) = none → c.Stores d (now.after settings.maxAge) false c' →
      NewOutcome clock now path c (.ok (some d)) (.ok .newStored) c'
  | notStored {d : Document} {reason : String} :
      faults (.put d.importPath) = some reason →
      NewOutcome clock now path c (.ok (some d)) (.ok .newFailed) c
  | markedBad {c' : Catalog} :
      faults (.markBad path) = none → c.MarksBad clock path c' →
      NewOutcome clock now path c (.ok none) (.ok .newNotFound) c'
  | notMarked {reason : String} :
      faults (.markBad path) = some reason →
      NewOutcome clock now path c (.ok none) (.ok .newNotFound) c
  | notFetched {reason : String} :
      NewOutcome clock now path c (.error (.error reason)) (.ok .newFailed) c
  | crashed {p : Payload} :
      NewOutcome clock now path c (.error (.crash p)) (.error (.crashed p)) c

/-- The packages that share project and etag with the stored package are put off, unless that
is refused, too. -/
inductive PutOff (now : Instant) (prior : Record) (c : Catalog) : Catalog → Prop
  | moved {c' : Catalog} :
      later (.setNextCrawl prior.document.projectRoot) = none →
      c.Reschedules prior.document.projectRoot prior.document.etag
        (now.after settings.retryDelay) c' →
      PutOff now prior c c'
  | refused {reason : String} :
      later (.setNextCrawl prior.document.projectRoot) = some reason → PutOff now prior c c

/-- The document has the stored version, which is one that can be told. -/
def SameVersion (prior d : Document) : Prop := d.etag ≠ "" ∧ d.etag = prior.etag

instance (prior d : Document) : Decidable (SameVersion prior d) :=
  inferInstanceAs (Decidable (_ ∧ _))

def refreshOp (prior : Record) : Option Document → CatalogOp
  | none => .delete prior.importPath
  | some d =>
      if SameVersion prior.document d then .setNextCrawl d.projectRoot else .put d.importPath

/-- What becomes of a package that is refreshed, by the answer to its request. -/
inductive RefreshOutcome (now : Instant) (prior : Record) (c : Catalog) :
    Except Failure (Option Document) → Except Interruption CrawlOutcome → Catalog → Prop
  | removed {c' : Catalog} :
      faults (refreshOp prior none) = none → c.Deletes prior.importPath c' →
      RefreshOutcome now prior c (.ok none) (.ok .removed) c'
  | notModified {d : Document} {c' : Catalog} :
      SameVersion prior.document d → faults (refreshOp prior (some d)) = none →
      c.Reschedules d.projectRoot d.etag (now.after settings.maxAge) c' →
      RefreshOutcome now prior c (.ok (some d)) (.ok .notModified) c'
  | refreshed {d : Document} {c' : Catalog} :
      ¬ SameVersion prior.document d → faults (refreshOp prior (some d)) = none →
      c.Stores d (now.after settings.maxAge) prior.suppressed c' →
      RefreshOutcome now prior c (.ok (some d)) (.ok .refreshed) c'
  | notWritten {document? : Option Document} {reason : String} {c' : Catalog} :
      faults (refreshOp prior document?) = some reason → PutOff settings later now prior c c' →
      RefreshOutcome now prior c (.ok document?) (.ok .refreshFailed) c'
  | notFetched {reason : String} {c' : Catalog} :
      PutOff settings later now prior c c' →
      RefreshOutcome now prior c (.error (.error reason)) (.ok .refreshFailed) c'
  | crashed {p : Payload} :
      RefreshOutcome now prior c (.error (.crash p)) (.error (.crashed p)) c

/-- What is asked before a stored package is refreshed. -/
structure AsksAbout (c : Catalog) (r : Record) (request : FetchRequest) : Prop where
  importPath : request.importPath = r.importPath
  reason : request.reason = .refresh
  prior : request.prior = some r.document
  priorCrawl : request.priorCrawl = some r.nextCrawl
  hasSubdirs : request.hasSubdirs = true ↔ '\x00' ∉ r.importPath.toList ∧ c.HasBelow r.importPath

/-- The message of a run that could not read the catalog. -/
def unread (message : String) (e : StoreError) : Except Interruption CrawlOutcome :=
  .error (.failed (.executionFailed (becauseOf message e.message)))

/-- One run. A path in the queue goes before every package, however long that one is due. -/
inductive Transition (clock now : Instant) (c : Catalog) : Result → Prop
  | notPopped {reason : String} :
      faults .popNewCrawl = some reason →
      Transition clock now c
        ⟨unread "Failed to pop new crawl target" (.refused reason), c, none⟩
  | new {path : String} {row : QueueRow} {exit : Except Interruption CrawlOutcome}
      {c₁ c' : Catalog} :
      faults .popNewCrawl = none → c.queue.First (·.queuedAt) path row → c.Dequeues path c₁ →
      NewOutcome settings faults clock now path c₁
        (fetch (.newTarget path row.hasSubdirs)) exit c' →
      Transition clock now c ⟨exit, c', some (.newTarget path row.hasSubdirs)⟩
  | notSearched {reason : String} :
      faults .popNewCrawl = none → (∀ path, c.queue.find? path = none) →
      faults .mostOverdue = some reason →
      Transition clock now c
        ⟨unread "Failed to read most overdue package" (.refused reason), c, none⟩
  | empty :
      faults .popNewCrawl = none → (∀ path, c.queue.find? path = none) →
      faults .mostOverdue = none → (∀ path, c.packages.find? path = none) →
      Transition clock now c ⟨.ok .idle, c, none⟩
  | unreadable {path : String} {row : PackageRow} :
      faults .popNewCrawl = none → (∀ path, c.queue.find? path = none) →
      faults .mostOverdue = none → c.packages.First (·.nextCrawl) path row →
      row.record? path = none →
      Transition clock now c
        ⟨unread "Failed to read most overdue package" .unreadableMostOverdue, c, none⟩
  | notDue {path : String} {row : PackageRow} {r : Record} :
      faults .popNewCrawl = none → (∀ path, c.queue.find? path = none) →
      faults .mostOverdue = none → c.packages.First (·.nextCrawl) path row →
      row.record? path = some r → now < r.nextCrawl →
      Transition clock now c ⟨.ok .idle, c, none⟩
  | refresh {path : String} {row : PackageRow} {r : Record} {request : FetchRequest}
      {exit : Except Interruption CrawlOutcome} {c' : Catalog} :
      faults .popNewCrawl = none → (∀ path, c.queue.find? path = none) →
      faults .mostOverdue = none → c.packages.First (·.nextCrawl) path row →
      row.record? path = some r → ¬ now < r.nextCrawl → AsksAbout c r request →
      RefreshOutcome settings faults later now r c (fetch request) exit c' →
      Transition clock now c ⟨exit, c', some request⟩

theorem exists_newOutcome (clock now : Instant) (path : String) (c : Catalog)
    (answer : Except Failure (Option Document)) :
    ∃ exit c', NewOutcome settings faults clock now path c answer exit c' := by
  cases answer with
  | error failure =>
      cases failure with
      | error reason => exact ⟨_, _, .notFetched⟩
      | crash p => exact ⟨_, _, .crashed⟩
  | ok document? =>
      cases document? with
      | none =>
          cases hf : faults (.markBad path) with
          | none => exact ⟨_, _, .markedBad hf (Catalog.marksBad_iff.mpr rfl)⟩
          | some reason => exact ⟨_, _, .notMarked hf⟩
      | some d =>
          cases hf : faults (.put d.importPath) with
          | none => exact ⟨_, _, .stored hf (Catalog.stores_iff.mpr rfl)⟩
          | some reason => exact ⟨_, _, .notStored hf⟩

theorem exists_putOff (now : Instant) (prior : Record) (c : Catalog) :
    ∃ c', PutOff settings later now prior c c' := by
  cases hf : later (.setNextCrawl prior.document.projectRoot) with
  | none => exact ⟨_, .moved hf (Catalog.reschedules_iff.mpr rfl)⟩
  | some reason => exact ⟨_, .refused hf⟩

theorem exists_refreshOutcome (now : Instant) (r : Record) (c : Catalog)
    (answer : Except Failure (Option Document)) :
    ∃ exit c', RefreshOutcome settings faults later now r c answer exit c' := by
  obtain ⟨putOff, hput⟩ := exists_putOff settings later now r c
  cases answer with
  | error failure =>
      cases failure with
      | error reason => exact ⟨_, _, .notFetched hput⟩
      | crash p => exact ⟨_, _, .crashed⟩
  | ok document? =>
      cases hf : faults (refreshOp r document?) with
      | some reason => exact ⟨_, _, .notWritten hf hput⟩
      | none =>
          cases document? with
          | none => exact ⟨_, _, .removed hf (Catalog.deletes_iff.mpr rfl)⟩
          | some d =>
              by_cases hsame : SameVersion r.document d
              · exact ⟨_, _, .notModified hsame hf (Catalog.reschedules_iff.mpr rfl)⟩
              · exact ⟨_, _, .refreshed hsame hf (Catalog.stores_iff.mpr rfl)⟩

theorem refreshRequest_hasSubdirs (c : Catalog) (r : Record) :
    (refreshRequest (c.entry r)).hasSubdirs = true ↔
      '\x00' ∉ r.importPath.toList ∧ c.HasBelow r.importPath := by
  rw [← Catalog.subdirs_ne_nil_iff]
  exact decide_eq_true_iff

theorem asksAbout_iff {c : Catalog} {r : Record} {request : FetchRequest} :
    AsksAbout c r request ↔ request = refreshRequest (c.entry r) := by
  constructor
  · intro h
    have hsub : request.hasSubdirs = (refreshRequest (c.entry r)).hasSubdirs := by
      rw [Bool.eq_iff_iff, h.hasSubdirs, refreshRequest_hasSubdirs]
    obtain ⟨hpath, hreason, hprior, hcrawl, _⟩ := h
    cases request
    simp_all only [refreshRequest, Catalog.entry]
  · rintro rfl
    exact ⟨rfl, rfl, rfl, rfl, refreshRequest_hasSubdirs c r⟩

theorem exists_transition (clock now : Instant) (c : Catalog) :
    ∃ result, Transition settings fetch faults later clock now c result := by
  cases hpop : faults .popNewCrawl with
  | some reason => exact ⟨_, .notPopped hpop⟩
  | none =>
      cases hnext : Catalog.leastBy (fun r => r.2.queuedAt) c.queue.rows with
      | some target =>
          obtain ⟨path, row⟩ := target
          have hfirst := Catalog.first_of_leastBy hnext
          obtain ⟨exit, c', hnew⟩ := exists_newOutcome settings faults clock now path
            { c with queue := c.queue.erase path } (fetch (.newTarget path row.hasSubdirs))
          exact ⟨_, .new hpop hfirst (Catalog.dequeues_iff.mpr rfl) hnew⟩
      | none =>
          have hempty := Catalog.leastBy_rows_eq_none_iff.mp hnext
          cases hsearch : faults .mostOverdue with
          | some reason => exact ⟨_, .notSearched hpop hempty hsearch⟩
          | none =>
              cases hoverdue : c.mostOverdueRow? with
              | none =>
                  exact ⟨_, .empty hpop hempty hsearch
                    (Catalog.mostOverdueRow?_eq_none_iff.mp hoverdue)⟩
              | some found =>
                  obtain ⟨path, row⟩ := found
                  have hfirst := Catalog.mostOverdueRow?_eq_some_iff.mp hoverdue
                  cases hread : row.record? path with
                  | none => exact ⟨_, .unreadable hpop hempty hsearch hfirst hread⟩
                  | some r =>
                      by_cases hdue : now < r.nextCrawl
                      · exact ⟨_, .notDue hpop hempty hsearch hfirst hread hdue⟩
                      · obtain ⟨exit, c', hrefresh⟩ := exists_refreshOutcome settings faults
                          later now r c (fetch (refreshRequest (c.entry r)))
                        exact ⟨_, .refresh hpop hempty hsearch hfirst hread hdue
                          (asksAbout_iff.mpr rfl) hrefresh⟩

variable {settings fetch faults later}
variable {clock now : Instant} {c c' : Catalog} {exit : Except Interruption CrawlOutcome}

theorem NewOutcome.eq_crawlNew {path : String} {hasSubdirs : Bool}
    (h : NewOutcome settings faults clock now path c (fetch (.newTarget path hasSubdirs)) exit c') :
    crawlNew settings fetch faults clock now ⟨path, hasSubdirs⟩ c =
      ⟨exit, c', some (.newTarget path hasSubdirs)⟩ := by
  generalize hanswer : fetch (.newTarget path hasSubdirs) = answer at h
  cases h with
  | stored hf hstores =>
      rw [Catalog.stores_iff] at hstores
      simp [crawlNew, storeNew, hanswer, Access.put, Access.guarded, hf, Access.writing, hstores]
  | notStored hf =>
      simp [crawlNew, storeNew, hanswer, Access.put, Access.guarded, hf]
  | markedBad hf hmarks =>
      rw [Catalog.marksBad_iff] at hmarks
      simp [crawlNew, storeNew, hanswer, Access.markBad, Access.guarded, hf, Access.writing, hmarks]
  | notMarked hf =>
      simp [crawlNew, storeNew, hanswer, Access.markBad, Access.guarded, hf]
  | notFetched => simp [crawlNew, hanswer]
  | crashed => simp [crawlNew, hanswer]

theorem PutOff.eq_retry {prior : Record} (h : PutOff settings later now prior c c') :
    c' = retry settings later now prior c := by
  cases h with
  | moved hf hmoved =>
      rw [Catalog.reschedules_iff] at hmoved
      simp [retry, Access.setNextCrawl, Access.guarded, hf, Access.writing, hmoved]
  | refused hf => simp [retry, Access.setNextCrawl, Access.guarded, hf]

/-- A refused operation is the one reason why what was found is not stored. -/
theorem storeRefresh_eq (prior : Record) (document? : Option Document) :
    storeRefresh settings faults now prior document? c =
      Access.guarded faults (refreshOp prior document?) (fun c => .ok (match document? with
        | none => (.removed, c.delete prior.importPath)
        | some d =>
            if SameVersion prior.document d then
              (.notModified, c.setNextCrawl d.projectRoot d.etag (now.after settings.maxAge))
            else (.refreshed,
              c.putDocument d (some (now.after settings.maxAge)) prior.suppressed))) c := by
  cases document? with
  | none =>
      simp only [storeRefresh, Access.delete, Access.guarded, refreshOp]
      split <;> rfl
  | some d =>
      by_cases hsame : SameVersion prior.document d
      · simp only [storeRefresh, if_pos (show _ ∧ _ from hsame), Access.setNextCrawl,
          Access.guarded, refreshOp, if_pos hsame]
        split <;> rfl
      · simp only [storeRefresh, if_neg (show ¬ (_ ∧ _) from hsame), Access.put,
          Access.guarded, refreshOp, if_neg hsame]
        split <;> rfl

theorem RefreshOutcome.eq_refresh {r : Record}
    (h : RefreshOutcome settings faults later now r c (fetch (refreshRequest (c.entry r)))
      exit c') :
    refresh settings fetch faults later now (c.entry r) c =
      ⟨exit, c', some (refreshRequest (c.entry r))⟩ := by
  have hrecord : (c.entry r).record = r := rfl
  generalize hanswer : fetch (refreshRequest (c.entry r)) = answer at h
  cases h with
  | removed hf hdeletes =>
      rw [Catalog.deletes_iff] at hdeletes
      simp only [refresh, hrecord, hanswer, storeRefresh_eq, Access.guarded_of_none _ _ hf,
        hdeletes]
  | notModified hsame hf hmoved =>
      rw [Catalog.reschedules_iff] at hmoved
      simp only [refresh, hrecord, hanswer, storeRefresh_eq, Access.guarded_of_none _ _ hf,
        if_pos hsame, hmoved]
  | refreshed hsame hf hstores =>
      rw [Catalog.stores_iff] at hstores
      simp only [refresh, hrecord, hanswer, storeRefresh_eq, Access.guarded_of_none _ _ hf,
        if_neg hsame, hstores]
  | notWritten hf hput =>
      simp only [refresh, hrecord, hanswer, storeRefresh_eq, Access.guarded_of_some _ _ hf,
        hput.eq_retry]
  | notFetched hput => simp only [refresh, hrecord, hanswer, hput.eq_retry]
  | crashed => simp only [refresh, hanswer]

theorem run_of_empty (hpop : faults .popNewCrawl = none)
    (hempty : ∀ path, c.queue.find? path = none) (hsearch : faults .mostOverdue = none) :
    run settings fetch faults later clock now c = match c.mostOverdue with
      | .error e => ⟨unread "Failed to read most overdue package" e, c, none⟩
      | .ok none => ⟨.ok .idle, c, none⟩
      | .ok (some entry) =>
          if now < entry.record.nextCrawl then ⟨.ok .idle, c, none⟩
          else refresh settings fetch faults later now entry c := by
  simp only [run, Access.popNewCrawl, Access.guarded_of_none _ _ hpop,
    Catalog.popNewCrawl_of_empty hempty, Access.mostOverdue, Access.guarded_of_none _ _ hsearch,
    Access.reading]
  cases c.mostOverdue with
  | error e => rfl
  | ok entry? => cases entry? <;> rfl

theorem Transition.eq_run {result : Result}
    (h : Transition settings fetch faults later clock now c result) :
    result = run settings fetch faults later clock now c := by
  cases h with
  | notPopped hpop =>
      simp only [run, Access.popNewCrawl, Access.guarded_of_some _ _ hpop]
      rfl
  | new hpop hfirst hdequeues hnew =>
      rw [Catalog.dequeues_iff] at hdequeues
      simp only [run, Access.popNewCrawl, Access.guarded_of_none _ _ hpop,
        Catalog.popNewCrawl_of_first hfirst]
      rw [← hdequeues]
      exact (NewOutcome.eq_crawlNew hnew).symm
  | notSearched hpop hempty hsearch =>
      simp only [run, Access.popNewCrawl, Access.guarded_of_none _ _ hpop,
        Catalog.popNewCrawl_of_empty hempty, Access.mostOverdue,
        Access.guarded_of_some _ _ hsearch]
      rfl
  | empty hpop hempty hsearch hnone =>
      rw [← Catalog.mostOverdueRow?_eq_none_iff] at hnone
      rw [run_of_empty hpop hempty hsearch]
      simp only [Catalog.mostOverdue, hnone]
  | unreadable hpop hempty hsearch hfirst hread =>
      rw [← Catalog.mostOverdueRow?_eq_some_iff] at hfirst
      rw [run_of_empty hpop hempty hsearch]
      simp only [Catalog.mostOverdue, hfirst, hread]
  | notDue hpop hempty hsearch hfirst hread hdue =>
      rw [← Catalog.mostOverdueRow?_eq_some_iff] at hfirst
      rw [run_of_empty hpop hempty hsearch]
      simp only [Catalog.mostOverdue, hfirst, hread, Catalog.entry, if_pos hdue]
  | refresh hpop hempty hsearch hfirst hread hdue hasks hrefresh =>
      rw [← Catalog.mostOverdueRow?_eq_some_iff] at hfirst
      rw [asksAbout_iff] at hasks
      subst hasks
      rw [run_of_empty hpop hempty hsearch]
      simp only [Catalog.mostOverdue, hfirst, hread]
      rw [if_neg (show ¬ now < (c.entry _).record.nextCrawl from hdue), hrefresh.eq_refresh]

theorem transition_iff_eq_run {result : Result} :
    Transition settings fetch faults later clock now c result ↔
      result = run settings fetch faults later clock now c := by
  refine ⟨Transition.eq_run, ?_⟩
  rintro rfl
  obtain ⟨result, h⟩ := exists_transition settings fetch faults later clock now c
  rwa [← h.eq_run]

/-- A transition rests on the answer to the request it tells of, and on no other. -/
theorem Transition.of_same_answer {fetch' : Fetcher} {result : Result}
    (h : Transition settings fetch faults later clock now c result)
    (hsame : ∀ request, result.asked = some request → fetch' request = fetch request) :
    Transition settings fetch' faults later clock now c result := by
  cases h with
  | notPopped hpop => exact .notPopped hpop
  | new hpop hfirst hdequeues hnew =>
      rw [← hsame _ rfl] at hnew
      exact .new hpop hfirst hdequeues hnew
  | notSearched hpop hempty hsearch => exact .notSearched hpop hempty hsearch
  | empty hpop hempty hsearch hnone => exact .empty hpop hempty hsearch hnone
  | unreadable hpop hempty hsearch hfirst hread =>
      exact .unreadable hpop hempty hsearch hfirst hread
  | notDue hpop hempty hsearch hfirst hread hdue =>
      exact .notDue hpop hempty hsearch hfirst hread hdue
  | refresh hpop hempty hsearch hfirst hread hdue hasks hrefresh =>
      rw [← hsame _ rfl] at hrefresh
      exact .refresh hpop hempty hsearch hfirst hread hdue hasks hrefresh

/-- A request that has a stored document is the refresh of the first package, which is due. -/
theorem Transition.refresh_of_prior {result : Result} {request : FetchRequest} {prior : Document}
    (h : Transition settings fetch faults later clock now c result)
    (hasked : result.asked = some request) (hprior : request.prior = some prior) :
    (∀ path, c.queue.find? path = none) ∧ ∃ path row r, c.packages.First (·.nextCrawl) path row ∧
      row.record? path = some r ∧ ¬ now < r.nextCrawl ∧ AsksAbout c r request ∧
      RefreshOutcome settings faults later now r c (fetch request) result.exit result.catalog := by
  cases h with
  | new => cases hasked; cases hprior
  | refresh hpop hempty hsearch hfirst hread hdue hasks hrefresh =>
      cases hasked
      exact ⟨hempty, _, _, _, hfirst, hread, hdue, hasks, hrefresh⟩
  | notPopped | notSearched | empty | unreadable | notDue => cases hasked

/-- One run does what the transition says and nothing else, and it asks for at most one package:
no other answer of the fetcher matters. What it tells of the paths below that package is the
truth unless a NUL in the package's path hides them. -/
theorem run_is_the_transition (settings : CrawlSettings) (fetch : Fetcher)
    (faults later : CatalogFaults) (clock now : Instant) (c : Catalog) :
    (∀ result, Transition settings fetch faults later clock now c result ↔
      result = run settings fetch faults later clock now c) ∧
    (∀ fetch' : Fetcher,
      (∀ request, (run settings fetch faults later clock now c).asked = some request →
        fetch' request = fetch request) →
      run settings fetch' faults later clock now c =
        run settings fetch faults later clock now c) ∧
    ∀ request prior, (run settings fetch faults later clock now c).asked = some request →
      request.prior = some prior →
      ((request.hasSubdirs = true ↔ c.HasBelow request.importPath) ↔
        ¬ ('\x00' ∈ request.importPath.toList ∧ c.HasBelow request.importPath)) := by
  have hrun : Transition settings fetch faults later clock now c
      (run settings fetch faults later clock now c) := transition_iff_eq_run.mpr rfl
  refine ⟨fun result => transition_iff_eq_run, fun fetch' hsame => ?_,
    fun request prior hasked hprior => ?_⟩
  · exact (hrun.of_same_answer hsame).eq_run.symm
  · obtain ⟨_, _, _, r, _, _, _, hasks, _⟩ := hrun.refresh_of_prior hasked hprior
    rw [hasks.hasSubdirs, hasks.importPath]
    by_cases hnul : '\x00' ∈ r.importPath.toList <;>
      by_cases hbelow : c.HasBelow r.importPath <;> simp [hnul, hbelow]

/-- A package whose path has a NUL in it, and a package below it. -/
def nulNested : Catalog :=
  (({} : Catalog).putDocument { importPath := "a\x00", projectRoot := "a" } none false).putDocument
    { importPath := "a\x00/b", projectRoot := "a" } none false

/-- The refresh of a package whose path has a NUL does not tell of the package below it. -/
theorem nul_hides_the_path_below :
    nulNested.HasBelow "a\x00" ∧
    (run {} (fun _ => .ok none) (fun _ => none) (fun _ => none) .epoch .epoch nulNested).asked =
      some { importPath := "a\x00", reason := .refresh,
             prior := some { importPath := "a\x00", projectRoot := "a" },
             hasSubdirs := false, priorCrawl := some .epoch } := by
  refine ⟨⟨"a\x00/b", PackageRow.ofDocument { importPath := "a\x00/b", projectRoot := "a" } 0 false,
    ?_, "b", ?_⟩, ?_⟩ <;> decide

end PackageIndex.Crawl
