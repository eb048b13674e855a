import PackageIndex.Enqueue
import PackageIndex.Retention
import PackageIndex.Proofs.Catalog.Bump
import PackageIndex.Proofs.Catalog.Separation
import PackageIndex.Proofs.Crawl.Transition
import PackageIndex.Proofs.Suppression.Interleaving
import PackageIndex.Proofs.UpdatePoll.Outcome
/-!
Whatever is done with the stores is done by operations. The jobs and the command line are errands,
each with all that it meets; what an errand leaves of a catalog is what some operations lead to.
-/
namespace PackageIndex

/-- A scoring that changes nothing, whatever it finds. -/
inductive Scoring.ReadsOnly : Scoring → Prop
  | answered (answer : Verdict) : ReadsOnly (.answered answer)
  | crashed (p : Payload) : ReadsOnly (.crashed p)
  | visit {next : Catalog → Scoring} : (∀ c, ReadsOnly (next c)) → ReadsOnly (.visit id next)

/-- A run of a job, or paths that are queued from outside. -/
inductive Errand where
  | crawl (settings : CrawlSettings) (fetch : Fetcher) (faults later : CatalogFaults)
      (clock now : Instant)
  | poll (feed : UpdateFeed) (faultsAt : Nat → CatalogFaults) (clock : Instant)
  | suppress (scorer : Scorer) (faults : CatalogFaults) (workers : UInt64)
      (credentialsText? : Option String) (schedule : List Suppression.Event)
  | cleanUp (settings : RetentionSettings) (faults : HistoryFaults) (now : Instant)
  | queue (faults : CatalogFaults) (clock : Instant) (path : String) (hasSubdirs : Bool)
  | enqueue (faults : CatalogFaults) (hasSubdirs : Bool) (clockAt : Nat → Instant)
      (args : List String)

namespace Errand

/-- What an errand leaves of the catalog and of the run history. -/
def run : Errand → Catalog × RunHistory → Catalog × RunHistory
  | crawl settings fetch faults later clock now, (c, h) =>
    ((Crawl.run settings fetch faults later clock now c).catalog, h)
  | poll feed faultsAt clock, (c, h) => ((UpdatePoll.poll feed faultsAt clock c).catalog, h)
  | suppress scorer faults workers credentialsText? schedule, (c, h) =>
    ((Suppression.evaluate scorer faults workers credentialsText? schedule c).catalog, h)
  | cleanUp settings faults now, (c, h) =>
    match Retention.run settings faults now h with
    | .ok (_, h) => (c, h)
    | .error _ => (c, h)
  | queue faults clock path hasSubdirs, (c, h) =>
    match Access.addNewCrawl faults clock path hasSubdirs c with
    | .ok (_, c) => (c, h)
    | .error _ => (c, h)
  | enqueue faults hasSubdirs clockAt args, (c, h) =>
    ((Enqueue.enqueue faults hasSubdirs clockAt args c).2, h)

/-- Errands one after the other. -/
def runAll (errands : List Errand) (w : Catalog × RunHistory) : Catalog × RunHistory :=
  errands.foldl (fun w e => e.run w) w

theorem runAll_append (errands errands' : List Errand) (w : Catalog × RunHistory) :
    runAll (errands ++ errands') w = runAll errands' (runAll errands w) :=
  List.foldl_append

/-- Documents come for the path that was asked for, and scorers change nothing. -/
def Faithful : Errand → Prop
  | crawl _ fetch _ _ _ _ =>
    ∀ request d, fetch request = .ok (some d) → d.importPath = request.importPath
  | suppress scorer _ _ _ _ => ∀ record credentials, (scorer record credentials).ReadsOnly
  | poll _ _ _ | cleanUp _ _ _ | queue _ _ _ _ | enqueue _ _ _ _ => True

end Errand

open Catalog (Leads Step)

variable {c c' : Catalog}

theorem leads_refreshOutcome {settings : CrawlSettings} {faults later : CatalogFaults}
    {now : Instant} {prior : Record} {answer : Except Failure (Option Document)}
    {exit : Except Interruption CrawlOutcome}
    (h : Crawl.RefreshOutcome settings faults later now prior c answer exit c') : Leads c c' := by
  have hputOff : Crawl.PutOff settings later now prior c c' → Leads c c' := by
    rintro (⟨_, hmoved⟩ | _)
    · rw [Catalog.reschedules_iff.mp hmoved]
      exact .single (.setNextCrawl _ _ _)
    · exact .refl
  cases h with
  | removed _ hdeletes =>
      rw [Catalog.deletes_iff.mp hdeletes]
      exact .single (.delete _)
  | notModified _ _ hmoved =>
      rw [Catalog.reschedules_iff.mp hmoved]
      exact .single (.setNextCrawl _ _ _)
  | refreshed _ _ hstores =>
      rw [Catalog.stores_iff.mp hstores]
      exact .single (.put _ _ _)
  | notWritten _ hput => exact hputOff hput
  | notFetched hput => exact hputOff hput
  | crashed => exact .refl

theorem leads_newOutcome {settings : CrawlSettings} {faults : CatalogFaults} {clock now : Instant}
    {path : String} {answer : Except Failure (Option Document)}
    {exit : Except Interruption CrawlOutcome}
    (h : Crawl.NewOutcome settings faults clock now path c answer exit c') : Leads c c' := by
  cases h with
  | stored _ hstores =>
      rw [Catalog.stores_iff.mp hstores]
      exact .single (.put _ _ _)
  | markedBad _ hmarks =>
      rw [Catalog.marksBad_iff.mp hmarks]
      exact .single (.markBad _ _)
  | notStored | notMarked | notFetched | crashed => exact .refl

theorem leads_dequeues {path : String} {row : QueueRow}
    (hfirst : c.queue.First (·.queuedAt) path row) (h : c.Dequeues path c') : Leads c c' := by
  have hpop : c' = c.popNewCrawl.2 := by
    rw [Catalog.dequeues_iff.mp h, Catalog.popNewCrawl_of_first hfirst]
  rw [hpop]
  exact .single .popNewCrawl

theorem leads_transition {settings : CrawlSettings} {fetch : Fetcher} {faults later : CatalogFaults}
    {clock now : Instant} {result : Crawl.Result}
    (h : Crawl.Transition settings fetch faults later clock now c result) :
    Leads c result.catalog := by
  cases h with
  | new _ hfirst hdequeues hnew =>
      exact (leads_dequeues hfirst hdequeues).trans (leads_newOutcome hnew)
  | refresh _ _ _ _ _ _ _ hrefresh => exact leads_refreshOutcome hrefresh
  | notPopped | notSearched | empty | unreadable | notDue => exact .refl

theorem leads_bumpRoots (roots : List String) (c : Catalog) : Leads c (c.bumpRoots roots) := by
  induction roots generalizing c with
  | nil => rw [Catalog.bumpRoots_nil]
  | cons root roots ih =>
      have hbump : Leads c (c.bumpRoots [root]) := by
        have hstep : Step c (c.bump root).2 := .bump root
        rw [Catalog.bump_eq] at hstep
        exact .single hstep
      rw [← List.singleton_append, Catalog.bumpRoots_append]
      exact hbump.trans (ih _)

theorem leads_outcome {feed : UpdateFeed} {faultsAt : Nat → CatalogFaults} {clock : Instant}
    {result : UpdatePoll.Result} (h : UpdatePoll.Outcome feed faultsAt clock c result) :
    Leads c result.catalog := by
  cases h with
  | notStored _ _ _ hbumps _ hblobs =>
      rw [Catalog.bumps_iff, hblobs] at hbumps
      rw [hbumps]
      exact leads_bumpRoots _ c
  | stored _ _ _ hbumps _ hblobs _ =>
      rw [Catalog.bumps_iff, Table.sets_some_iff.mp hblobs] at hbumps
      rw [hbumps]
      exact (leads_bumpRoots _ c).tail (.writeBlob _ _ _)
  | notRead | corrupt | notAnswered | crashed => exact .refl

theorem leads_writeBack (faults : CatalogFaults) (path : String) (summary : SuppressionSummary)
    (c : Catalog) : Leads c (Suppression.writeBack faults path summary c).2 := by
  have hwrites := Suppression.writesBack_writeBack faults path summary c
  generalize hresult : Suppression.writeBack faults path summary c = result at hwrites
  cases hwrites with
  | hidden hget hrow hread hput _ =>
      rw [Suppression.writeBack_of_get hget hrow hread, hput] at hresult
      cases hresult
      exact .single (.put _ _ _)
  | notRead | gone | unreadable | notStored => exact .refl

section

open Suppression

variable {scorer : Scorer} {faults : CatalogFaults} {credentials : Option Credentials}
  {workers : UInt64} {p p' : Progress}

theorem Scoring.ReadsOnly.leavesAlone {scoring : Scoring} (h : scoring.ReadsOnly) (path : String) :
    scoring.LeavesAlone path := by
  induction h with
  | answered answer => exact .answered answer
  | crashed p => exact .crashed p
  | visit _ ih => exact .visit (fun _ => rfl) ih

/-- What holds of every scoring that a scorer gives holds of all that are to be done. -/
theorem forall_unsettled_start {P : Scoring → Prop} (h : ∀ record, P (scorer record credentials))
    (packages : List Record) (c : Catalog) :
    ∀ r ∈ ({ catalog := c, waiting := packages } : Progress).unsettled scorer credentials,
      P r.2 := by
  intro r hr
  obtain ⟨_, hnone, _⟩ | hnone | ⟨record, _, rfl⟩ := mem_unsettled.mp hr
  · cases hnone
  · cases hnone
  · exact h record

theorem readsOnly_of_moves (h : Moves scorer faults credentials workers p p')
    (hreads : ∀ r ∈ p.unsettled scorer credentials, r.2.ReadsOnly) :
    ∀ r ∈ p'.unsettled scorer credentials, r.2.ReadsOnly := by
  refine h.unsettled (P := fun _ scoring => scoring.ReadsOnly) hreads ?_ ?_
  · rintro record change next (_ | _ | hnext)
    exact hnext p.catalog
  · intro record scoring answer _ _
    exact .answered answer

theorem leads_of_moves (h : Moves scorer faults credentials workers p p')
    (hreads : ∀ r ∈ p.unsettled scorer credentials, r.2.ReadsOnly) :
    Leads p.catalog p'.catalog := by
  cases h with
  | take _ _ => exact .refl
  | @visit before after record change next hsplit =>
      cases hreads (record, .visit change next) (mem_unsettled_of_running (by simp [hsplit]))
      exact .refl
  | hand _ _ _ => exact .refl
  | @settle after record answer hhanded =>
      rcases answer with e | _ | _
      · exact .refl
      · exact .refl
      · exact leads_writeBack faults record.importPath _ p.catalog

theorem leads_of_reaches (h : Reaches scorer faults credentials workers p p')
    (hreads : ∀ r ∈ p.unsettled scorer credentials, r.2.ReadsOnly) :
    Leads p.catalog p'.catalog := by
  suffices hboth : Leads p.catalog p'.catalog ∧
      ∀ r ∈ p'.unsettled scorer credentials, r.2.ReadsOnly from hboth.1
  induction h with
  | refl => exact ⟨.refl, hreads⟩
  | tail _ hmoves ih =>
      exact ⟨ih.1.trans (leads_of_moves hmoves ih.2), readsOnly_of_moves hmoves ih.2⟩

end

theorem leads_evaluate {scorer : Scorer}
    (hreads : ∀ record credentials, (scorer record credentials).ReadsOnly) (faults : CatalogFaults)
    (workers : UInt64) (credentialsText? : Option String) (schedule : List Suppression.Event)
    (c : Catalog) :
    Leads c (Suppression.evaluate scorer faults workers credentialsText? schedule c).catalog := by
  rcases Suppression.evaluate_catalog scorer faults workers credentialsText? schedule c with
    hsame | ⟨credentials, packages, p, hreaches, hp⟩
  · rw [hsame]
  · rw [hp]
    exact leads_of_reaches hreaches
      (forall_unsettled_start (fun record => hreads record credentials) packages c)

theorem keepsRow_evaluate {scorer : Scorer}
    (hreads : ∀ record credentials, (scorer record credentials).ReadsOnly) (faults : CatalogFaults)
    (workers : UInt64) (credentialsText? : Option String) (schedule : List Suppression.Event)
    (c : Catalog) (path : String) :
    c.KeepsRow path
      (Suppression.evaluate scorer faults workers credentialsText? schedule c).catalog := by
  rcases Suppression.evaluate_catalog scorer faults workers credentialsText? schedule c with
    hsame | ⟨credentials, packages, p, hreaches, hp⟩
  · exact .of_eq (by rw [hsame])
  · rw [hp]
    refine Suppression.keepsRow_of_reaches hreaches fun r hr => ?_
    exact (forall_unsettled_start (fun record => hreads record credentials) packages c r
      hr).leavesAlone path

theorem addNewCrawl_of_access {faults : CatalogFaults} {clock : Instant} {path : String}
    {hasSubdirs accepted : Bool}
    (h : Access.addNewCrawl faults clock path hasSubdirs c = .ok (accepted, c')) :
    (accepted, c') = c.addNewCrawl clock path hasSubdirs :=
  (Except.ok.inj (Access.ok_of_guarded h)).symm

theorem leads_enqueue (faults : CatalogFaults) (hasSubdirs : Bool) (clockAt : Nat → Instant)
    (args : List String) (c : Catalog) :
    Leads c (Enqueue.enqueue faults hasSubdirs clockAt args c).2 := by
  induction args generalizing clockAt c with
  | nil => exact .refl
  | cons arg rest ih =>
      simp only [Enqueue.enqueue]
      split
      · exact ih _ c
      · split
        · exact .refl
        next accepted c' hadd =>
          have hstep : Step c c' := by
            rw [show c' = _ from congrArg Prod.snd (addNewCrawl_of_access hadd)]
            exact .addNewCrawl (clockAt 0) _ hasSubdirs
          exact .head hstep (ih _ c')

theorem packages_of_access {faults : CatalogFaults} {clock : Instant} {path : String}
    {hasSubdirs accepted : Bool}
    (h : Access.addNewCrawl faults clock path hasSubdirs c = .ok (accepted, c')) :
    c'.packages = c.packages := by
  rw [show c' = _ from congrArg Prod.snd (addNewCrawl_of_access h)]
  exact (Catalog.tables_addNewCrawl c clock path hasSubdirs).1

theorem packages_enqueue (faults : CatalogFaults) (hasSubdirs : Bool) (clockAt : Nat → Instant)
    (args : List String) (c : Catalog) :
    (Enqueue.enqueue faults hasSubdirs clockAt args c).2.packages = c.packages := by
  induction args generalizing clockAt c with
  | nil => rfl
  | cons arg rest ih =>
      simp only [Enqueue.enqueue]
      split
      · exact ih _ c
      · split
        · rfl
        next accepted c' hadd => exact (ih _ c').trans (packages_of_access hadd)

/-- An errand leaves what operations lead to. -/
theorem Errand.leads {e : Errand} (h : e.Faithful) (w : Catalog × RunHistory) :
    Leads w.1 (e.run w).1 := by
  obtain ⟨c, history⟩ := w
  cases e with
  | crawl settings fetch faults later clock now =>
      exact leads_transition (Crawl.transition_iff_eq_run.mpr rfl)
  | poll feed faultsAt clock =>
      exact leads_outcome ((UpdatePoll.outcome_iff_eq_poll feed faultsAt clock c).mpr rfl)
  | suppress scorer faults workers credentialsText? schedule =>
      exact leads_evaluate h faults workers credentialsText? schedule c
  | cleanUp settings faults now =>
      simp only [Errand.run]
      split <;> exact .refl
  | queue faults clock path hasSubdirs =>
      simp only [Errand.run]
      split
      next accepted c' hadd =>
        have hstep := Step.addNewCrawl (c := c) clock path hasSubdirs
        rw [← addNewCrawl_of_access hadd] at hstep
        exact .single hstep
      next => exact .refl
  | enqueue faults hasSubdirs clockAt args => exact leads_enqueue faults hasSubdirs clockAt args c

theorem Errand.leads_runAll {errands : List Errand} (h : ∀ e ∈ errands, e.Faithful)
    (w : Catalog × RunHistory) : Leads w.1 (Errand.runAll errands w).1 := by
  induction errands generalizing w with
  | nil => exact .refl
  | cons e errands ih =>
      rw [List.forall_mem_cons] at h
      exact (Errand.leads h.1 w).trans (ih h.2 (e.run w))

end PackageIndex
