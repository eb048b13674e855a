import PackageIndex.Proofs.Catalog.Times
import PackageIndex.Proofs.Errand
/-!
What is put first is crawled first. Operations and errands that are given no time before the epoch
leave no package with one: a crawl sets its times from its own time onwards, a poll sets the epoch,
and a verdict that hides a package keeps its time. So a package at the epoch is never overtaken by
one with a later time, whichever jobs have run before.
-/
namespace PackageIndex

/-- A scoring that on its visits changes the catalog only in some ways. -/
inductive Scoring.ChangesBy (ways : Catalog → Catalog → Prop) : Scoring → Prop
  | answered (answer : Verdict) : ChangesBy ways (.answered answer)
  | crashed (p : Payload) : ChangesBy ways (.crashed p)
  | visit {change : Catalog → Catalog} {next : Catalog → Scoring} :
      (∀ c, ways c (change c)) → (∀ c, ChangesBy ways (next c)) →
      ChangesBy ways (.visit change next)

/-- An errand that is given no time before the epoch. Its documents may be any, and its scorers may
change the catalog as long as they give it no such time either. -/
def Errand.SinceEpoch : Errand → Prop
  | crawl _ _ _ _ _ now => Instant.epoch ≤ now
  | suppress scorer _ _ _ _ => ∀ record credentials,
      (scorer record credentials).ChangesBy Catalog.LeadsSinceEpoch
  | poll _ _ _ | cleanUp _ _ _ | queue _ _ _ _ | enqueue _ _ _ _ => True

/-- An operation or an errand with no time before the epoch. What an operation on the catalog finds
and leaves of the run history does not matter. -/
inductive Deed : Catalog × RunHistory → Catalog × RunHistory → Prop
  | operation {c c' : Catalog} (history history' : RunHistory) :
      c.StepSinceEpoch c' → Deed (c, history) (c', history')
  | errand {e : Errand} (w : Catalog × RunHistory) : e.SinceEpoch → Deed w (e.run w)

namespace Catalog

variable {c c' : Catalog}

/-- A catalog that operations lead to from the empty one, without a time before the epoch. -/
structure Timely (c : Catalog) : Prop where
  reached : Leads {} c
  sinceEpoch : c.SinceEpoch

theorem timely_empty : Timely {} := ⟨.refl, sinceEpoch_empty⟩

theorem Timely.leads (h : c.Timely) (hleads : LeadsSinceEpoch c c') : c'.Timely :=
  ⟨h.reached.trans (leads_of_leadsSinceEpoch hleads), h.sinceEpoch.leads hleads⟩

theorem SinceEpoch.refreshOutcome {settings : CrawlSettings} {faults later : CatalogFaults}
    {now : Instant} {prior : Record} {answer : Except Failure (Option Document)}
    {exit : Except Interruption CrawlOutcome} (h : c.SinceEpoch) (hnow : Instant.epoch ≤ now)
    (hrefresh : Crawl.RefreshOutcome settings faults later now prior c answer exit c') :
    c'.SinceEpoch := by
  have hafter (delay : Span) : Instant.epoch ≤ now.after delay :=
    Instant.le_after_of_le hnow (by decide)
  have hputOff : Crawl.PutOff settings later now prior c c' → c'.SinceEpoch := by
    rintro (⟨_, hmoved⟩ | _)
    · exact h.of_reschedules hmoved (hafter _)
    · exact h
  cases hrefresh with
  | removed _ hdeletes => exact h.of_deletes hdeletes
  | notModified _ _ hmoved => exact h.of_reschedules hmoved (hafter _)
  | refreshed _ _ hstores => exact h.of_stores hstores (hafter _)
  | notWritten _ hput => exact hputOff hput
  | notFetched hput => exact hputOff hput
  | crashed => exact h

theorem SinceEpoch.newOutcome {settings : CrawlSettings} {faults : CatalogFaults}
    {clock now : Instant} {path : String} {answer : Except Failure (Option Document)}
    {exit : Except Interruption CrawlOutcome} (h : c.SinceEpoch) (hnow : Instant.epoch ≤ now)
    (hnew : Crawl.NewOutcome settings faults clock now path c answer exit c') : c'.SinceEpoch := by
  cases hnew with
  | stored _ hstores => exact h.of_stores hstores (Instant.le_after_of_le hnow (by decide))
  | markedBad _ hmarks => exact h.of_packages hmarks.packages
  | notStored | notMarked | notFetched | crashed => exact h

theorem SinceEpoch.transition {settings : CrawlSettings} {fetch : Fetcher}
    {faults later : CatalogFaults} {clock now : Instant} {result : Crawl.Result}
    (h : c.SinceEpoch) (hnow : Instant.epoch ≤ now)
    (hrun : Crawl.Transition settings fetch faults later clock now c result) :
    result.catalog.SinceEpoch := by
  cases hrun with
  | new _ _ hdequeues hnew => exact (h.of_packages hdequeues.packages).newOutcome hnow hnew
  | refresh _ _ _ _ _ _ _ hrefresh => exact h.refreshOutcome hnow hrefresh
  | notPopped | notSearched | empty | unreadable | notDue => exact h

theorem SinceEpoch.pollOutcome {feed : UpdateFeed} {faultsAt : Nat → CatalogFaults}
    {clock : Instant} {result : UpdatePoll.Result} (h : c.SinceEpoch)
    (hpoll : UpdatePoll.Outcome feed faultsAt clock c result) : result.catalog.SinceEpoch := by
  cases hpoll with
  | notStored _ _ _ hbumps _ _ => exact h.of_bumps hbumps
  | stored _ _ _ hbumps _ _ _ => exact h.of_bumps hbumps
  | notRead | corrupt | notAnswered | crashed => exact h

end Catalog

section

open Suppression

variable {scorer : Scorer} {faults : CatalogFaults} {credentials : Option Credentials}
  {workers : UInt64} {p p' : Progress}

theorem changesBy_of_moves {ways : Catalog → Catalog → Prop}
    (h : Moves scorer faults credentials workers p p')
    (hleft : ∀ r ∈ p.unsettled scorer credentials, r.2.ChangesBy ways) :
    ∀ r ∈ p'.unsettled scorer credentials, r.2.ChangesBy ways := by
  refine h.unsettled (P := fun _ scoring => scoring.ChangesBy ways) hleft ?_ ?_
  · rintro record change next (_ | _ | ⟨_, hnext⟩)
    exact hnext p.catalog
  · intro record scoring answer _ _
    exact .answered answer

theorem timely_of_moves (h : Moves scorer faults credentials workers p p')
    (hleft : ∀ r ∈ p.unsettled scorer credentials, r.2.ChangesBy Catalog.LeadsSinceEpoch)
    (htimely : p.catalog.Timely) : p'.catalog.Timely := by
  cases h with
  | take _ _ | hand _ _ _ => exact htimely
  | @visit before after record change next hsplit =>
      have hrunning : (record, Scoring.visit change next) ∈ p.running := by simp [hsplit]
      cases hleft _ (mem_unsettled_of_running hrunning) with
      | visit hchange _ => exact htimely.leads (hchange p.catalog)
  | @settle after record answer hhanded =>
      rcases answer with e | _ | _
      · exact htimely
      · exact htimely
      · exact ⟨htimely.reached.trans (leads_writeBack faults record.importPath _ p.catalog),
          htimely.sinceEpoch.of_keepsRow (writesBack_writeBack faults record.importPath _
            p.catalog).keepsRow⟩

theorem timely_of_reaches (h : Reaches scorer faults credentials workers p p')
    (hleft : ∀ r ∈ p.unsettled scorer credentials, r.2.ChangesBy Catalog.LeadsSinceEpoch)
    (htimely : p.catalog.Timely) : p'.catalog.Timely := by
  suffices hboth : p'.catalog.Timely ∧
      ∀ r ∈ p'.unsettled scorer credentials, r.2.ChangesBy Catalog.LeadsSinceEpoch from hboth.1
  induction h with
  | refl => exact ⟨htimely, hleft⟩
  | tail _ hmoves ih => exact ⟨timely_of_moves hmoves ih.2 ih.1, changesBy_of_moves hmoves ih.2⟩

theorem timely_evaluate {c : Catalog} (h : c.Timely)
    (hscorer : ∀ record credentials,
      (scorer record credentials).ChangesBy Catalog.LeadsSinceEpoch)
    (credentialsText? : Option String) (schedule : List Event) :
    (evaluate scorer faults workers credentialsText? schedule c).catalog.Timely := by
  rcases evaluate_catalog scorer faults workers credentialsText? schedule c with
    hsame | ⟨credentials, packages, p, hreaches, hp⟩
  · rwa [hsame]
  · rw [hp]
    exact timely_of_reaches hreaches
      (forall_unsettled_start (fun record => hscorer record credentials) packages c) h

end

theorem Errand.timely {e : Errand} {w : Catalog × RunHistory} (he : e.SinceEpoch)
    (h : w.1.Timely) : (e.run w).1.Timely := by
  obtain ⟨c, history⟩ := w
  cases e with
  | crawl settings fetch faults later clock now =>
      have hrun : Crawl.Transition settings fetch faults later clock now c
          (Crawl.run settings fetch faults later clock now c) := Crawl.transition_iff_eq_run.mpr rfl
      exact ⟨h.reached.trans (leads_transition hrun), h.sinceEpoch.transition he hrun⟩
  | poll feed faultsAt clock =>
      have hpoll := (UpdatePoll.outcome_iff_eq_poll feed faultsAt clock c).mpr rfl
      exact ⟨h.reached.trans (leads_outcome hpoll), h.sinceEpoch.pollOutcome hpoll⟩
  | suppress scorer faults workers credentialsText? schedule =>
      exact timely_evaluate h he credentialsText? schedule
  | cleanUp settings faults now =>
      simp only [Errand.run]
      split <;> exact h
  | queue faults clock path hasSubdirs =>
      have hleads := Errand.leads (e := .queue faults clock path hasSubdirs) trivial (c, history)
      refine ⟨h.reached.trans hleads, h.sinceEpoch.of_packages ?_⟩
      simp only [Errand.run]
      split
      next accepted c' hadd => exact packages_of_access hadd
      next => rfl
  | enqueue faults hasSubdirs clockAt args =>
      exact ⟨h.reached.trans (leads_enqueue faults hasSubdirs clockAt args c),
        h.sinceEpoch.of_packages (packages_enqueue faults hasSubdirs clockAt args c)⟩

theorem Deed.timely {w w' : Catalog × RunHistory} (h : w.1.Timely) (hdeed : Deed w w') :
    w'.1.Timely := by
  cases hdeed with
  | operation _ _ hstep => exact h.leads (.single hstep)
  | errand _ he => exact Errand.timely he h

theorem deeds_runAll {errands : List Errand} (h : ∀ e ∈ errands, e.SinceEpoch)
    (w : Catalog × RunHistory) : Relation.ReflTransGen Deed w (Errand.runAll errands w) := by
  induction errands generalizing w with
  | nil => exact .refl
  | cons e errands ih =>
      rw [List.forall_mem_cons] at h
      exact .head (.errand w h.1) (ih h.2 (e.run w))

theorem timely_of_deeds {history : RunHistory} {w : Catalog × RunHistory}
    (h : Relation.ReflTransGen Deed ({}, history) w) : w.1.Timely := by
  induction h with
  | refl => exact Catalog.timely_empty
  | tail _ hdeed ih => exact hdeed.timely ih

namespace Crawl

variable {settings : CrawlSettings} {fetch : Fetcher} {faults later : CatalogFaults}
  {clock now : Instant} {c : Catalog} {path : String} {result : Result}

/-- A refresh of a package whose time is the epoch. -/
inductive RefreshesAtEpoch (settings : CrawlSettings) (fetch : Fetcher)
    (faults later : CatalogFaults) (now : Instant) (c : Catalog) : Result → Prop
  | refresh {row : PackageRow} {r : Record} {request : FetchRequest}
      {exit : Except Interruption CrawlOutcome} {c' : Catalog} :
      c.packages.find? r.importPath = some row → row.nextCrawl = Instant.epoch.secs →
      row.record? r.importPath = some r → AsksAbout c r request →
      RefreshOutcome settings faults later now r c (fetch request) exit c' →
      RefreshesAtEpoch settings fetch faults later now c ⟨exit, c', some request⟩

/-- With nothing in the queue, and a package at the epoch, a run that may read the catalog takes
such a package. -/
theorem Transition.refreshesAtEpoch
    (h : Transition settings fetch faults later clock now c result) (hnow : Instant.epoch ≤ now)
    (htimely : c.Timely) (hempty : ∀ path, c.queue.find? path = none) (hat : c.AtEpoch path) :
    RefreshesAtEpoch settings fetch faults later now c result ∨
      (faults .popNewCrawl ≠ none ∨ faults .mostOverdue ≠ none) ∧ result.asked = none ∧
        result.catalog = c := by
  cases h with
  | notPopped hpop => exact .inr ⟨.inl (by simp [hpop]), rfl, rfl⟩
  | notSearched _ _ hsearch => exact .inr ⟨.inr (by simp [hsearch]), rfl, rfl⟩
  | new _ hfirst => exact absurd hfirst (Table.First.not_of_empty hempty)
  | empty _ _ _ hnone =>
      obtain ⟨row, hrow, _⟩ := hat
      rw [hnone] at hrow
      cases hrow
  | @unreadable path' row _ _ _ hfirst hread =>
      have hwritten := Catalog.written_of_leads htimely.reached path' row hfirst.stored
      obtain ⟨r, hrecord, _⟩ := hwritten.exists_record
      rw [hread] at hrecord
      cases hrecord
  | notDue _ _ _ hfirst hread hdue =>
      obtain ⟨_, _, _, hnext⟩ := record?_fields hread
      rw [hnext, hat.of_first htimely.sinceEpoch hfirst] at hdue
      exact absurd hdue (Instant.not_lt.mpr hnow)
  | refresh _ _ _ hfirst hread _ hasks hrefresh =>
      obtain ⟨rfl, _⟩ := record?_fields hread
      exact .inl (.refresh hfirst.stored (hat.of_first htimely.sinceEpoch hfirst) hread hasks
        hrefresh)

/-- A package with a later time is asked for only when none is at the epoch. -/
theorem Transition.not_atEpoch {request : FetchRequest} {t : Instant}
    (h : Transition settings fetch faults later clock now c result)
    (hsince : c.SinceEpoch) (hasked : result.asked = some request)
    (hprior : request.priorCrawl = some t) (hlater : Instant.epoch < t) : ¬ c.AtEpoch path := by
  intro hat
  cases h with
  | new => cases hasked; cases hprior
  | refresh _ _ _ hfirst hread _ hasks _ =>
      cases hasked
      obtain ⟨_, _, _, hnext⟩ := record?_fields hread
      rw [hasks.priorCrawl, hnext, hat.of_first hsince hfirst] at hprior
      cases hprior
      exact Instant.lt_irrefl _ hlater
  | notPopped | notSearched | empty | unreadable | notDue => cases hasked

end Crawl

/-- Whatever operations and errands follow one another from the empty catalog, with no time before
the epoch given to any of them: no package has a time before the epoch, and all of them can be
read. After a bump that met any package, the most overdue one is at the epoch. A crawl with nothing
in the queue refreshes a package at the epoch as long as there is one, unless it may not read the
catalog, and no crawl asks for a package with a later time before none is left at the epoch. -/
theorem bumped_package_goes_first (history : RunHistory) (w : Catalog × RunHistory)
    (h : Relation.ReflTransGen Deed ({}, history) w) :
    (∀ path row, w.1.packages.find? path = some row → Instant.epoch.secs ≤ row.nextCrawl ∧
      ∃ r, row.record? path = some r ∧ Instant.epoch ≤ r.nextCrawl) ∧
    (∀ root, 0 < (w.1.bump root).1 → ∃ entry, (w.1.bump root).2.mostOverdue = .ok (some entry) ∧
      (w.1.bump root).2.AtEpoch entry.record.importPath ∧
      entry.record.nextCrawl = Instant.epoch) ∧
    (∀ settings fetch faults later clock now, Instant.epoch ≤ now →
      (∀ path, w.1.queue.find? path = none) → (∃ path, w.1.AtEpoch path) →
      let result := Crawl.run settings fetch faults later clock now w.1
      Crawl.RefreshesAtEpoch settings fetch faults later now w.1 result ∨
        (faults .popNewCrawl ≠ none ∨ faults .mostOverdue ≠ none) ∧ result.asked = none ∧
          result.catalog = w.1) ∧
    ∀ settings fetch faults later clock now request t,
      (Crawl.run settings fetch faults later clock now w.1).asked = some request →
      request.priorCrawl = some t → Instant.epoch < t → ∀ path, ¬ w.1.AtEpoch path := by
  have htimely : w.1.Timely := timely_of_deeds h
  have hwritten := Catalog.written_of_leads htimely.reached
  refine ⟨fun path row hrow => ?_, fun root hcount => ?_, ?_, ?_⟩
  · have htime := htimely.sinceEpoch path row hrow
    obtain ⟨r, hread, _⟩ := (hwritten path row hrow).exists_record
    obtain ⟨_, _, _, hnext⟩ := record?_fields hread
    exact ⟨htime, r, hread, hnext ▸ Instant.epoch_le_ofUnix htime⟩
  · obtain ⟨path, hat⟩ := Catalog.exists_atEpoch_of_bump hcount
    have hbumped : (w.1.bump root).2.Timely := htimely.leads (.single (.bump root))
    exact Catalog.mostOverdue_of_atEpoch hat hbumped.sinceEpoch
      (Catalog.written_of_leads hbumped.reached)
  · rintro settings fetch faults later clock now hnow hempty ⟨path, hat⟩
    have hrun : Crawl.Transition settings fetch faults later clock now w.1
        (Crawl.run settings fetch faults later clock now w.1) := Crawl.transition_iff_eq_run.mpr rfl
    exact hrun.refreshesAtEpoch hnow htimely hempty hat
  · intro settings fetch faults later clock now request t hasked hprior hlater path
    exact (Crawl.transition_iff_eq_run.mpr rfl : Crawl.Transition settings fetch faults later clock
      now w.1 _).not_atEpoch htimely.sinceEpoch hasked hprior hlater

/-- A path is queued, and what is found for it is stored. -/
def queuedAndCrawled : List Errand :=
  [.queue (fun _ => none) .epoch "p" false,
    .crawl {} (fun request => .ok (some { importPath := request.importPath, projectRoot := "r" }))
      (fun _ => none) (fun _ => none) .epoch ⟨100, 0⟩]

/-- Beside it there is a package of another project with an earlier time. -/
def crawledAndEarlier : Catalog × RunHistory :=
  let w := Errand.runAll queuedAndCrawled ({}, {})
  (w.1.putDocument { importPath := "q", projectRoot := "s" } (some ⟨7, 0⟩) false, w.2)

theorem deeds_crawledAndEarlier : Relation.ReflTransGen Deed ({}, {}) crawledAndEarlier := by
  have hsince : ∀ e ∈ queuedAndCrawled, e.SinceEpoch := by
    simp only [queuedAndCrawled, List.forall_mem_cons]
    exact ⟨trivial, (by decide : Instant.epoch ≤ ⟨100, 0⟩), by simp⟩
  refine .tail (deeds_runAll hsince ({}, {})) (.operation _ _ (.put _ _ fun at' hat => ?_))
  obtain rfl := Option.some.inj hat
  decide

/-- Once its project is bumped, the package with the later time is the most overdue one. -/
theorem bumped_over_an_earlier_one :
    ∃ entry, (crawledAndEarlier.1.bump "r").2.mostOverdue = .ok (some entry) ∧
      (crawledAndEarlier.1.bump "r").2.AtEpoch entry.record.importPath ∧
      entry.record.nextCrawl = Instant.epoch :=
  (bumped_package_goes_first {} crawledAndEarlier deeds_crawledAndEarlier).2.1 "r" (by decide)

end PackageIndex
