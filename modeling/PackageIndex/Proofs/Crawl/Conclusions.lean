import PackageIndex.DocumentService
import PackageIndex.Proofs.Catalog.Readable
import PackageIndex.Proofs.Crawl.Transition
/-!
What a run concludes for good. A run that finds nothing marks a new path bad or deletes a stored
package, and no other run does either. With the document service, nothing is found when it answers
that there is no package; but also when it answers that a document is unchanged and none was sent,
so a new path may be given up although the service never said that there is no package.
-/
namespace PackageIndex

namespace DocumentService

variable {transport : Http.Transport} {base : String} {request : FetchRequest} {reply : Http.Reply}

/-- What the service answers to a request. -/
def exchange (transport : Http.Transport) (base : String) (request : FetchRequest) :
    Except Cause Http.Reply :=
  Http.send transport "POST" (Http.trimBase base ++ "/fetch")
    [("accept", "*/*"), ("content-type", "application/json")] (String.ofList request.toJson)

/-- The answer stands for no document: there is no package, or the document that was sent along is
unchanged, and there was none. -/
def FindsNothing (request : FetchRequest) (reply : Http.Reply) : Prop :=
  reply.status = 404 ∨ reply.status = 304 ∧ request.prior = none

theorem interpret_eq_none_iff : interpret request reply = .ok none ↔ FindsNothing request reply := by
  by_cases hmissing : reply.status = 404
  · simp [interpret, FindsNothing, hmissing]
  · by_cases hunchanged : reply.status = 304
    · simp [interpret, FindsNothing, hunchanged]
    · simp only [interpret, FindsNothing, hmissing, hunchanged, if_false, false_and, or_self,
        iff_false]
      split
      · split <;> simp
      · simp

theorem fetch_of_exchange_error {cause : Cause}
    (h : exchange transport base request = .error cause) :
    fetch transport base request = .error (.unreachable request.importPath cause) := by
  rw [exchange] at h
  simp only [fetch, h]

theorem fetch_of_exchange_ok (h : exchange transport base request = .ok reply) :
    fetch transport base request = interpret request reply := by
  rw [exchange] at h
  simp only [fetch, h]

theorem fetcher_eq_none_iff : fetcher transport base request = .ok none ↔
    ∃ reply, exchange transport base request = .ok reply ∧ FindsNothing request reply := by
  simp only [← interpret_eq_none_iff, fetcher]
  cases hexchange : exchange transport base request with
  | error cause => simp [fetch_of_exchange_error hexchange]
  | ok reply =>
      cases hread : interpret request reply <;> simp [fetch_of_exchange_ok hexchange, hread]

end DocumentService

namespace Crawl

/-- A path is given up: it has become bad, or it was a package and is none any more. -/
def GivesUp (path : String) (c c' : Catalog) : Prop :=
  c'.bad.find? path ≠ c.bad.find? path ∨
    (∃ row, c.packages.find? path = some row) ∧ c'.packages.find? path = none

/-- The catalog lets the conclusion that nothing was found be noted: a new path can be marked, and
was not marked in this very second already, or a stored package can be deleted. -/
def Notes (faults : CatalogFaults) (clock : Instant) (c : Catalog) (request : FetchRequest) :
    Prop :=
  if request.prior = none then
    faults (.markBad request.importPath) = none ∧
      c.bad.find? request.importPath ≠ some clock.secs
  else faults (.delete request.importPath) = none

variable {settings : CrawlSettings} {fetch : Fetcher} {faults later : CatalogFaults}
  {clock now : Instant} {c c' : Catalog} {path : String}

theorem not_givesUp_of_kept (hbad : c'.bad = c.bad)
    (hkept : ∀ row, c.packages.find? path = some row → ∃ row', c'.packages.find? path = some row') :
    ¬ GivesUp path c c' := by
  rintro (hmarked | ⟨⟨row, hrow⟩, hgone⟩)
  · exact hmarked (by rw [hbad])
  · obtain ⟨row', hrow'⟩ := hkept row hrow
    rw [hgone] at hrow'
    cases hrow'

theorem not_givesUp_of_same (hbad : c'.bad = c.bad) (hpackages : c'.packages = c.packages) :
    ¬ GivesUp path c c' :=
  not_givesUp_of_kept hbad fun row hrow => ⟨row, hpackages ▸ hrow⟩

theorem not_givesUp_of_stores {d : Document} {at' : Instant} {suppressed : Bool}
    (h : c.Stores d at' suppressed c') : ¬ GivesUp path c c' := by
  refine not_givesUp_of_kept h.bad fun row hrow => ?_
  by_cases hpath : path = d.importPath
  · exact ⟨_, hpath ▸ h.packages.key⟩
  · exact ⟨row, (h.packages.others path hpath).trans hrow⟩

theorem not_givesUp_of_reschedules {root etag : String} {at' : Instant}
    (h : c.Reschedules root etag at' c') : ¬ GivesUp path c c' := by
  refine not_givesUp_of_kept h.bad fun row hrow => ?_
  by_cases hmatch : Catalog.Matches root etag row
  · exact ⟨_, h.moved path row hrow hmatch⟩
  · refine ⟨row, (h.others path fun row' hrow' => ?_).trans hrow⟩
    rwa [Option.some.inj (hrow'.symm.trans hrow)]

theorem not_givesUp_of_putOff {prior : Record} (h : PutOff settings later now prior c c') :
    ¬ GivesUp path c c' := by
  cases h with
  | moved _ hmoved => exact not_givesUp_of_reschedules hmoved
  | refused _ => exact not_givesUp_of_same rfl rfl

/-- A new path is given up exactly when nothing is found for it and that is noted. -/
theorem NewOutcome.givesUp_iff {answer : Except Failure (Option Document)}
    {exit : Except Interruption CrawlOutcome} {queued : String}
    (h : NewOutcome settings faults clock now queued c answer exit c') (hasSubdirs : Bool) :
    GivesUp path c c' ↔
      queued = path ∧ answer = .ok none ∧ Notes faults clock c (.newTarget queued hasSubdirs) := by
  simp only [Notes, FetchRequest.newTarget, if_true]
  cases h with
  | stored _ hstores => simp [not_givesUp_of_stores hstores]
  | @markedBad c' hfault hmarks =>
      constructor
      · rintro (hmarked | ⟨⟨row, hrow⟩, hgone⟩)
        · by_cases hpath : path = queued
          · subst hpath
            rw [hmarks.bad.key] at hmarked
            exact ⟨rfl, rfl, hfault, Ne.symm hmarked⟩
          · exact absurd (hmarks.bad.others path hpath) hmarked
        · rw [hmarks.packages, hrow] at hgone
          cases hgone
      · rintro ⟨rfl, _, _, hmarked⟩
        exact .inl (hmarks.bad.key ▸ hmarked.symm)
  | notMarked hfault => simp [not_givesUp_of_same, hfault]
  | notStored | notFetched | crashed => simp [not_givesUp_of_same]

/-- A stored package is given up exactly when nothing is found for it and that is noted. -/
theorem RefreshOutcome.givesUp_iff {prior : Record} {row : PackageRow} {request : FetchRequest}
    {answer : Except Failure (Option Document)} {exit : Except Interruption CrawlOutcome}
    (clock : Instant) (h : RefreshOutcome settings faults later now prior c answer exit c')
    (hrow : c.packages.find? prior.importPath = some row) (hasks : AsksAbout c prior request) :
    GivesUp path c c' ↔
      request.importPath = path ∧ answer = .ok none ∧ Notes faults clock c request := by
  simp only [Notes, hasks.prior, hasks.importPath, reduceCtorEq, if_false]
  cases h with
  | removed hfault hdeletes =>
      constructor
      · rintro (hmarked | ⟨⟨row', hrow'⟩, hgone⟩)
        · exact absurd (by rw [hdeletes.bad]) hmarked
        · by_cases hpath : path = prior.importPath
          · exact ⟨hpath.symm, rfl, hfault⟩
          · rw [hdeletes.packages.others path hpath, hrow'] at hgone
            cases hgone
      · rintro ⟨rfl, _, _⟩
        exact .inr ⟨⟨row, hrow⟩, hdeletes.packages.key⟩
  | notModified _ _ hmoved => simp [not_givesUp_of_reschedules hmoved]
  | refreshed _ _ hstores => simp [not_givesUp_of_stores hstores]
  | @notWritten document? reason c' hfault hput =>
      simp only [not_givesUp_of_putOff hput, false_iff, not_and]
      rintro rfl hnone hdelete
      obtain rfl : document? = none := Except.ok.inj hnone
      simp [refreshOp, hdelete] at hfault
  | notFetched hput => simp [not_givesUp_of_putOff hput]
  | crashed => simp [not_givesUp_of_same]

/-- A run gives a path up exactly when it asks for it, nothing is found, and that is noted. -/
theorem Transition.givesUp_iff {result : Result}
    (h : Transition settings fetch faults later clock now c result) :
    GivesUp path c result.catalog ↔ ∃ request, result.asked = some request ∧
      request.importPath = path ∧ fetch request = .ok none ∧ Notes faults clock c request := by
  cases h with
  | @new queued row exit c₁ c' _ hfirst hdequeues hnew =>
      have hsame : GivesUp path c c' ↔ GivesUp path c₁ c' := by
        simp only [GivesUp, hdequeues.bad, hdequeues.packages]
      have hnotes : Notes faults clock c₁ (.newTarget queued row.hasSubdirs) ↔
          Notes faults clock c (.newTarget queued row.hasSubdirs) := by
        simp only [Notes, hdequeues.bad]
      rw [hsame, hnew.givesUp_iff row.hasSubdirs, hnotes]
      simp [FetchRequest.newTarget]
  | refresh _ _ _ hfirst hread _ hasks hrefresh =>
      obtain ⟨hpath, _⟩ := record?_fields hread
      have hrow := hfirst.stored
      rw [← hpath] at hrow
      rw [hrefresh.givesUp_iff clock hrow hasks]
      simp
  | notPopped | notSearched | empty | unreadable | notDue => simp [not_givesUp_of_same]

/-- A run with the document service gives a path up exactly when it asks for this path, is answered
that there is no package, or that nothing has changed although the path is new, and the catalog
lets that be noted. -/
theorem gives_up_iff_nothing_is_found (settings : CrawlSettings) (transport : Http.Transport)
    (base : String) (faults later : CatalogFaults) (clock now : Instant) (c : Catalog)
    (path : String) :
    let result := run settings (DocumentService.fetcher transport base) faults later clock now c
    GivesUp path c result.catalog ↔ ∃ request reply, result.asked = some request ∧
      request.importPath = path ∧ DocumentService.exchange transport base request = .ok reply ∧
      (reply.status = 404 ∨ reply.status = 304 ∧ request.prior = none) ∧
      Notes faults clock c request := by
  intro result
  have hrun : Transition settings (DocumentService.fetcher transport base) faults later clock now c
      result := transition_iff_eq_run.mpr rfl
  rw [hrun.givesUp_iff]
  simp only [DocumentService.fetcher_eq_none_iff, DocumentService.FindsNothing]
  constructor
  · rintro ⟨request, hasked, hpath, ⟨reply, hreply, hnothing⟩, hnotes⟩
    exact ⟨request, reply, hasked, hpath, hreply, hnothing, hnotes⟩
  · rintro ⟨request, reply, hasked, hpath, hreply, hnothing, hnotes⟩
    exact ⟨request, hasked, hpath, ⟨reply, hreply, hnothing⟩, hnotes⟩

def oneQueued : Catalog := (({} : Catalog).addNewCrawl .epoch "n" false).2

/-- A service that has no news of anything. -/
def unchanged : Http.Transport := fun _ => some { status := 304, body := .empty }

/-- A new path is given up although the service only says that nothing has changed. -/
theorem unchanged_answer_gives_a_new_path_up :
    let result := run {} (DocumentService.fetcher unchanged "http://docs") (fun _ => none)
      (fun _ => none) .epoch .epoch oneQueued
    result.asked = some (.newTarget "n" false) ∧
      DocumentService.exchange unchanged "http://docs" (.newTarget "n" false) =
        .ok { status := 304, body := .empty } ∧
      GivesUp "n" oneQueued result.catalog ∧ result.catalog.isBad "n" = true := by
  have hsent : (DocumentService.exchange unchanged "http://docs" (.newTarget "n" false)).isOk =
      true := by decide +kernel
  refine ⟨by decide +kernel, ?_, .inl (by decide +kernel), by decide +kernel⟩
  rw [DocumentService.exchange, Http.send] at hsent ⊢
  split at hsent
  · cases hsent
  · rfl

end Crawl

end PackageIndex
