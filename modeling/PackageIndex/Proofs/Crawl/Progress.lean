import PackageIndex.Proofs.Catalog.Readable
import PackageIndex.Proofs.Crawl.Transition
import PackageIndex.Proofs.Instant
/-!
Whether a refreshed package makes room for the others. A run writes no package but with a time
that is still to come. So a package that was refreshed rests, unless the document found for it
is stored under another path, or has the stored version but another project: then the package
stays the first one, and every later run asks for it again.
-/
namespace PackageIndex.Crawl

/-- What a run meets besides the catalog. -/
structure Surroundings where
  fetch : Fetcher
  faults : CatalogFaults := fun _ => none
  later : CatalogFaults := fun _ => none
  clock : Instant := .epoch

def runIn (settings : CrawlSettings) (now : Instant) (s : Surroundings) (c : Catalog) : Result :=
  run settings s.fetch s.faults s.later s.clock now c

/-- Runs one after the other, all as of one time. -/
def runs (settings : CrawlSettings) (now : Instant) (surroundings : List Surroundings)
    (c : Catalog) : Catalog :=
  surroundings.foldl (fun c s => (runIn settings now s c).catalog) c

/-- A path is no package, or one whose time is still to come. -/
def Rests (now : Instant) (path : String) (c : Catalog) : Prop :=
  ∀ row, c.packages.find? path = some row → now < Instant.ofUnix row.nextCrawl

/-- The document found for a stored package leads past it: its version is the stored one, but
in another project, or it is to be stored under another path. -/
def Strays (prior d : Document) : Prop :=
  if SameVersion prior d then d.projectRoot ≠ prior.projectRoot
  else d.importPath ≠ prior.importPath

instance (prior d : Document) : Decidable (Strays prior d) :=
  inferInstanceAs (Decidable (if SameVersion prior d then _ else _))

/-- No operation fails, and whatever is asked about a package leads past it. -/
structure Surroundings.LeadsPast (s : Surroundings) (prior : Document) : Prop where
  faultless : ∀ op, s.faults op = none
  strays : ∀ request, request.importPath = prior.importPath →
    ∃ d, s.fetch request = .ok (some d) ∧ Strays prior d

/-- Seconds that are still to come and that the calendar covers. -/
def Ahead (now : Instant) (secs : Int) : Prop :=
  now.secs < secs ∧ secs ≤ Instant.latest.secs

variable {settings : CrawlSettings} {now : Instant} {c c' : Catalog}

theorem ahead_after {delay : Span} (hnow : now.secs < Instant.latest.secs)
    (hdelay : 1 ≤ delay.secs) : Ahead now (now.after delay).secs :=
  ⟨Instant.secs_lt_after hnow hdelay, Instant.secs_after_le now delay⟩

theorem one_le_maxAge (h : 1 ≤ settings.maxAgeHours) : 1 ≤ settings.maxAge.secs := by
  have hhours : 1 ≤ settings.maxAgeHours.toNat := h
  rw [CrawlSettings.maxAge, Span.min_def]
  split
  · rw [Span.secs_ofSeconds]
    omega
  · decide

theorem one_le_retryDelay (settings : CrawlSettings) : 1 ≤ settings.retryDelay.secs := by
  rw [← Span.secs_ofSeconds 1]
  apply Span.secs_le_of_le
  rw [CrawlSettings.retryDelay, Span.max_def]
  split
  · exact Nat.le_refl _
  next h => exact Nat.le_of_lt (Nat.lt_of_not_le h)

/-- A delay that does not lead past the calendar's end leaves room for a second. -/
theorem secs_lt_latest {delay : Span} (h : (now.after? delay).isSome) (hdelay : 1 ≤ delay.secs) :
    now.secs < Instant.latest.secs := by
  have hfits : (now.plus delay).secs ≤ Instant.latest.secs := by
    apply Classical.byContradiction
    intro hnot
    simp [Instant.after?, hnot] at h
  have hplus : now.secs + (0 : Nat) < (now.plus delay).secs :=
    Instant.secs_plus_gt (by omega)
  omega

/-- A catalog that differs from another one by packages only, and by none but such as have a
time that is still to come. -/
structure OnlyAhead (now : Instant) (c c' : Catalog) : Prop where
  queue : (∀ path, c.queue.find? path = none) → ∀ path, c'.queue.find? path = none
  rows : ∀ path row, c'.packages.find? path = some row →
    c.packages.find? path = some row ∨ Ahead now row.nextCrawl

theorem OnlyAhead.refl (now : Instant) (c : Catalog) : OnlyAhead now c c :=
  ⟨id, fun _ _ => .inl⟩

theorem onlyAhead_of_stores {d : Document} {at' : Instant} {suppressed : Bool}
    (h : c.Stores d at' suppressed c') (hat : Ahead now at'.secs) : OnlyAhead now c c' := by
  refine ⟨fun hempty path => ?_, fun path row hrow => ?_⟩
  · by_cases hpath : path = d.importPath
    · rw [hpath, h.queue.key]
    · rw [h.queue.others path hpath, hempty]
  · rcases h.row_of_find? hrow with ⟨_, rfl⟩ | ⟨_, hbefore⟩
    · exact .inr hat
    · exact .inl hbefore

theorem onlyAhead_of_reschedules {root etag : String} {at' : Instant}
    (h : c.Reschedules root etag at' c') (hat : Ahead now at'.secs) : OnlyAhead now c c' := by
  refine ⟨fun hempty path => by rw [h.queue, hempty], fun path row hrow => ?_⟩
  obtain ⟨before, hbefore, ⟨_, rfl⟩ | ⟨_, rfl⟩⟩ := h.row_of_find? hrow
  · exact .inr hat
  · exact .inl hbefore

theorem onlyAhead_of_deletes {path : String} (h : c.Deletes path c') : OnlyAhead now c c' :=
  ⟨fun hempty path => by rw [h.queue, hempty], fun _ _ hrow => .inl (h.row_of_find? hrow).2⟩

section

variable (hage : 1 ≤ settings.maxAge.secs) (hnow : now.secs < Instant.latest.secs)
include hage hnow

theorem RefreshOutcome.onlyAhead {faults later : CatalogFaults} {prior : Record}
    {answer : Except Failure (Option Document)} {exit : Except Interruption CrawlOutcome}
    (h : RefreshOutcome settings faults later now prior c answer exit c') :
    OnlyAhead now c c' := by
  have hputOff : PutOff settings later now prior c c' → OnlyAhead now c c' := by
    rintro (⟨_, hmoved⟩ | _)
    · exact onlyAhead_of_reschedules hmoved (ahead_after hnow (one_le_retryDelay settings))
    · exact .refl now c
  cases h with
  | removed _ hdeletes => exact onlyAhead_of_deletes hdeletes
  | notModified _ _ hmoved => exact onlyAhead_of_reschedules hmoved (ahead_after hnow hage)
  | refreshed _ _ hstores => exact onlyAhead_of_stores hstores (ahead_after hnow hage)
  | notWritten _ hput => exact hputOff hput
  | notFetched hput => exact hputOff hput
  | crashed => exact .refl now c

/-- Once the queue is empty, runs write no package but with a time that is still to come. -/
theorem Transition.onlyAhead {fetch : Fetcher} {faults later : CatalogFaults} {clock : Instant}
    {result : Result} (h : Transition settings fetch faults later clock now c result)
    (hempty : ∀ path, c.queue.find? path = none) : OnlyAhead now c result.catalog := by
  cases h with
  | new _ hfirst => exact absurd hfirst (Table.First.not_of_empty hempty)
  | refresh _ _ _ _ _ _ _ hrefresh => exact hrefresh.onlyAhead hage hnow
  | notPopped | notSearched | empty | unreadable | notDue => exact .refl now c

theorem RefreshOutcome.rests {faults later : CatalogFaults} {prior : Record} {row : PackageRow}
    {document? : Option Document} {exit : Except Interruption CrawlOutcome}
    (h : RefreshOutcome settings faults later now prior c (.ok document?) exit c')
    (hfaults : ∀ op, faults op = none) (hrow : c.packages.find? prior.importPath = some row)
    (hread : row.record? prior.importPath = some prior)
    (hkeeps : ∀ d, document? = some d → ¬ Strays prior.document d) :
    Rests now prior.importPath c' := by
  obtain ⟨_, hroot, hetag, _⟩ := record?_fields hread
  have hahead : Ahead now (now.after settings.maxAge).secs := ahead_after hnow hage
  intro row' hrow'
  cases h with
  | removed _ hdeletes => exact absurd rfl (hdeletes.row_of_find? hrow').1
  | notModified hsame _ hmoved =>
      have hkeep := hkeeps _ rfl
      rw [Strays, if_pos hsame, Decidable.not_not] at hkeep
      have hmatch : Catalog.Matches _ _ row :=
        ⟨hroot.symm.trans hkeep.symm, hetag.symm.trans hsame.2.symm⟩
      rw [hmoved.moved _ _ hrow hmatch] at hrow'
      cases hrow'
      exact Instant.lt_ofUnix hahead.1 hahead.2
  | refreshed hsame _ hstores =>
      have hkeep := hkeeps _ rfl
      rw [Strays, if_neg hsame, Decidable.not_not] at hkeep
      have hpath : prior.importPath = _ := hkeep.symm
      rw [hpath, hstores.packages.key] at hrow'
      cases hrow'
      exact Instant.lt_ofUnix hahead.1 hahead.2
  | notWritten hfault => simp [hfaults] at hfault

end

theorem RefreshOutcome.find?_of_strays {faults later : CatalogFaults} {prior : Record}
    {row : PackageRow} {d : Document} {exit : Except Interruption CrawlOutcome}
    (h : RefreshOutcome settings faults later now prior c (.ok (some d)) exit c')
    (hfaults : ∀ op, faults op = none) (hrow : c.packages.find? prior.importPath = some row)
    (hread : row.record? prior.importPath = some prior) (hstrays : Strays prior.document d) :
    c'.packages.find? prior.importPath = some row := by
  obtain ⟨_, hroot, _, _⟩ := record?_fields hread
  cases h with
  | notModified hsame _ hmoved =>
      rw [Strays, if_pos hsame] at hstrays
      rw [hmoved.others _ ?_, hrow]
      intro row' hrow' hmatch
      rw [hrow] at hrow'
      cases hrow'
      exact hstrays (hmatch.1.symm.trans hroot.symm)
  | refreshed hsame _ hstores =>
      rw [Strays, if_neg hsame] at hstrays
      exact (hstores.packages.others _ (Ne.symm hstrays)).trans hrow
  | notWritten hfault => simp [hfaults] at hfault

theorem runIn_transition (settings : CrawlSettings) (now : Instant) (s : Surroundings)
    (c : Catalog) :
    Transition settings s.fetch s.faults s.later s.clock now c (runIn settings now s c) :=
  transition_iff_eq_run.mpr rfl

/-- Nothing waits, and the path is not the next to be refreshed. -/
structure Settled (now : Instant) (path : String) (c : Catalog) : Prop where
  empty : ∀ path, c.queue.find? path = none
  rests : Rests now path c

theorem Settled.not_asked {path : String} {s : Surroundings} {request : FetchRequest}
    (h : Settled now path c) (hasked : (runIn settings now s c).asked = some request) :
    request.importPath ≠ path := by
  rintro rfl
  have hrun := runIn_transition settings now s c
  generalize runIn settings now s c = result at hrun hasked
  cases hrun with
  | new _ hfirst => exact absurd hfirst (Table.First.not_of_empty h.empty)
  | refresh _ _ _ hfirst hread hdue hasks =>
      cases hasked
      obtain ⟨hpath, _, _, htime⟩ := record?_fields hread
      rw [hasks.importPath, hpath] at h
      exact hdue (htime ▸ h.rests _ hfirst.stored)
  | notPopped | notSearched | empty | unreadable | notDue => cases hasked

/-- Nothing waits, and a package is the first one and due. -/
structure Blocks (now : Instant) (prior : Record) (row : PackageRow) (c : Catalog) : Prop where
  empty : ∀ path, c.queue.find? path = none
  first : c.packages.First (·.nextCrawl) prior.importPath row
  read : row.record? prior.importPath = some prior
  due : ¬ now < prior.nextCrawl
  past : row.nextCrawl ≤ now.secs

variable (settings) in
theorem Blocks.asked {prior : Record} {row : PackageRow} {s : Surroundings}
    (h : Blocks now prior row c) (hfaults : ∀ op, s.faults op = none) :
    ∃ request, (runIn settings now s c).asked = some request ∧
      request.importPath = prior.importPath ∧
      RefreshOutcome settings s.faults s.later now prior c (s.fetch request)
        (runIn settings now s c).exit (runIn settings now s c).catalog := by
  have hrun := runIn_transition settings now s c
  generalize runIn settings now s c = result at hrun
  cases hrun with
  | notPopped hpop => simp [hfaults] at hpop
  | new _ hfirst => exact absurd hfirst (Table.First.not_of_empty h.empty)
  | notSearched _ _ hsearch => simp [hfaults] at hsearch
  | empty _ _ _ hnone => exact absurd h.first (Table.First.not_of_empty hnone)
  | unreadable _ _ _ hfirst hread =>
      obtain ⟨rfl, rfl⟩ := h.first.unique hfirst
      rw [h.read] at hread
      cases hread
  | notDue _ _ _ hfirst hread hdue =>
      obtain ⟨rfl, rfl⟩ := h.first.unique hfirst
      rw [h.read] at hread
      cases hread
      exact absurd hdue h.due
  | refresh _ _ _ hfirst hread _ hasks hrefresh =>
      obtain ⟨rfl, rfl⟩ := h.first.unique hfirst
      rw [h.read] at hread
      cases hread
      exact ⟨_, rfl, hasks.importPath, hrefresh⟩

theorem Settled.step {path : String} (h : Settled now path c) (honly : OnlyAhead now c c') :
    Settled now path c' := by
  refine ⟨honly.queue h.empty, fun row hrow => ?_⟩
  rcases honly.rows path row hrow with hbefore | hahead
  · exact h.rests row hbefore
  · exact Instant.lt_ofUnix hahead.1 hahead.2

theorem Blocks.step {prior : Record} {row : PackageRow} (h : Blocks now prior row c)
    (honly : OnlyAhead now c c') (hrow : c'.packages.find? prior.importPath = some row) :
    Blocks now prior row c' := by
  refine ⟨honly.queue h.empty, ⟨hrow, fun path row' hrow' hne => ?_⟩, h.read, h.due, h.past⟩
  rcases honly.rows path row' hrow' with hbefore | hahead
  · exact h.first.least path row' hbefore hne
  · exact .inl (Int.lt_of_le_of_lt h.past hahead.1)

section

variable (hage : 1 ≤ settings.maxAge.secs) (hnow : now.secs < Instant.latest.secs)
include hage hnow

theorem Settled.runs {path : String} (h : Settled now path c) (rest : List Surroundings) :
    Settled now path (runs settings now rest c) := by
  induction rest generalizing c with
  | nil => exact h
  | cons s rest ih =>
      exact ih (h.step ((runIn_transition settings now s c).onlyAhead hage hnow h.empty))

theorem Blocks.run {prior : Record} {row : PackageRow} {s : Surroundings} {request : FetchRequest}
    {d : Document} (h : Blocks now prior row c) (hfaults : ∀ op, s.faults op = none)
    (hasked : (runIn settings now s c).asked = some request)
    (hfetch : s.fetch request = .ok (some d)) (hstrays : Strays prior.document d) :
    Blocks now prior row (runIn settings now s c).catalog := by
  obtain ⟨request', hasked', _, hrefresh⟩ := h.asked settings hfaults
  cases hasked.symm.trans hasked'
  rw [hfetch] at hrefresh
  exact h.step ((runIn_transition settings now s c).onlyAhead hage hnow h.empty)
    (hrefresh.find?_of_strays hfaults h.first.stored h.read hstrays)

theorem Blocks.runs {prior : Record} {row : PackageRow} (h : Blocks now prior row c)
    (rest : List Surroundings) (hrest : ∀ s ∈ rest, s.LeadsPast prior.document) :
    Blocks now prior row (runs settings now rest c) := by
  induction rest generalizing c with
  | nil => exact h
  | cons s rest ih =>
      have hs : s.LeadsPast prior.document := hrest s List.mem_cons_self
      obtain ⟨request, hasked, hpath, _⟩ := h.asked settings hs.faultless
      obtain ⟨d, hfetch, hstrays⟩ := hs.strays request hpath
      exact ih (h.run hage hnow hs.faultless hasked hfetch hstrays)
        fun s hs => hrest s (List.mem_cons_of_mem _ hs)

end

/-- A package that is refreshed without a failure is gone or rests afterwards exactly when the
document found for it does not lead past it. If so, no later run at the same time asks for it;
if not, it is asked for again and again, and no other package is. -/
theorem refreshed_rests_iff (settings : CrawlSettings) (now : Instant) (s : Surroundings)
    (c : Catalog) (request : FetchRequest) (prior : Document) (document? : Option Document)
    (hage : 1 ≤ settings.maxAgeHours) (hnow : (now.after? settings.maxAge).isSome)
    (hfaults : ∀ op, s.faults op = none)
    (hasked : (runIn settings now s c).asked = some request)
    (hprior : request.prior = some prior) (hfetch : s.fetch request = .ok document?) :
    (Rests now prior.importPath (runIn settings now s c).catalog ↔
      ∀ d, document? = some d → ¬ Strays prior d) ∧
    ((∀ d, document? = some d → ¬ Strays prior d) → ∀ rest s' request',
      (runIn settings now s' (runs settings now (s :: rest) c)).asked = some request' →
      request'.importPath ≠ prior.importPath) ∧
    ∀ d row, document? = some d → Strays prior d →
      c.packages.find? prior.importPath = some row → row.nextCrawl ≤ now.secs →
      ∀ rest s', (∀ t ∈ rest, t.LeadsPast prior) → (∀ op, s'.faults op = none) →
      ∃ request', (runIn settings now s' (runs settings now (s :: rest) c)).asked = some request' ∧
        request'.importPath = prior.importPath := by
  have hrun : Transition settings s.fetch s.faults s.later s.clock now c (runIn settings now s c) :=
    runIn_transition settings now s c
  have hmaxAge : 1 ≤ settings.maxAge.secs := one_le_maxAge hage
  have hlatest : now.secs < Instant.latest.secs := secs_lt_latest hnow hmaxAge
  obtain ⟨hempty, path, row, r, hfirst, hread, hdue, hasks, hrefresh⟩ :=
    hrun.refresh_of_prior hasked hprior
  obtain rfl : prior = r.document := Option.some.inj (hprior.symm.trans hasks.prior)
  obtain ⟨rfl, _, _, htime⟩ := record?_fields hread
  rw [hfetch] at hrefresh
  have honly : OnlyAhead now c (runIn settings now s c).catalog :=
    hrun.onlyAhead hmaxAge hlatest hempty
  have hrests : (∀ d, document? = some d → ¬ Strays r.document d) →
      Rests now r.importPath (runIn settings now s c).catalog :=
    hrefresh.rests hmaxAge hlatest hfaults hfirst.stored hread
  refine ⟨⟨fun hrest d hd hstrays => ?_, hrests⟩, fun hkeeps rest s' request' hasked' => ?_,
    fun d row' hd hstrays hrow' hpast rest s' hrest hfaults' => ?_⟩
  · subst hd
    have hsame := hrefresh.find?_of_strays hfaults hfirst.stored hread hstrays
    exact hdue (htime ▸ hrest row hsame)
  · have hsettled : Settled now r.importPath (runIn settings now s c).catalog :=
      ⟨honly.queue hempty, hrests hkeeps⟩
    exact (hsettled.runs hmaxAge hlatest rest).not_asked hasked'
  · subst hd
    obtain rfl : row' = row := Option.some.inj (hrow'.symm.trans hfirst.stored)
    have hblocks : Blocks now r row' c := ⟨hempty, hfirst, hread, hdue, hpast⟩
    have hafter := hblocks.run hmaxAge hlatest hfaults hasked hfetch hstrays
    obtain ⟨request', hasked', hpath, _⟩ :=
      (hafter.runs hmaxAge hlatest rest hrest).asked settings hfaults'
    exact ⟨request', hasked', hpath⟩

def dueDocument : Document := { importPath := "p", projectRoot := "r", etag := "v1" }

/-- A catalog with one package, which is due from the hundredth second on. -/
def oneDue : Catalog := ({} : Catalog).putDocument dueDocument (some ⟨100, 0⟩) false

def dueRequest : FetchRequest :=
  { importPath := "p", reason := .refresh, prior := some dueDocument, hasSubdirs := false
    priorCrawl := some ⟨100, 0⟩ }

/-- A package that is found as it is stored rests. -/
theorem unchanged_package_rests :
    Rests ⟨200, 0⟩ "p"
      (runIn {} ⟨200, 0⟩ { fetch := fun request => .ok request.prior } oneDue).catalog :=
  (refreshed_rests_iff {} ⟨200, 0⟩ { fetch := fun request => .ok request.prior } oneDue dueRequest
    dueDocument (some dueDocument) (by decide) (by decide) (fun _ => rfl) (by decide) rfl rfl).1.mpr
    fun d hd => by cases hd; decide

/-- A package that is found unchanged, but in another project, is still due afterwards. -/
theorem moved_package_stays_due :
    let s : Surroundings := { fetch := fun _ => .ok (some { dueDocument with projectRoot := "s" }) }
    (runIn {} ⟨200, 0⟩ s oneDue).asked = some dueRequest ∧
    (runIn {} ⟨200, 0⟩ s oneDue).exit = .ok .notModified ∧
    ¬ Rests ⟨200, 0⟩ "p" (runIn {} ⟨200, 0⟩ s oneDue).catalog := by
  refine ⟨by decide, rfl, fun hrest => ?_⟩
  exact absurd (hrest (PackageRow.ofDocument dueDocument 100 false) (by decide)) (by decide)

end PackageIndex.Crawl
