import PackageIndex.Proofs.Errand
/-!
A hidden package stays hidden. A crawl shows a package that it stores for the first time, but what
comes out of the queue is no package; a refresh carries the flag over, and a verdict only ever
sets it. So until a refresh finds that there is no document for it, no errand shows a package that
was hidden.
-/
namespace PackageIndex

/-- The package is stored, and hidden. -/
def Catalog.IsSuppressed (c : Catalog) (path : String) : Prop :=
  ∃ row, c.packages.find? path = some row ∧ row.suppressed ≠ 0

/-- The errand is the refresh of a package, finds no document for it and removes it. -/
inductive Errand.Removes (path : String) (c : Catalog) : Errand → Prop
  | crawl {settings : CrawlSettings} {fetch : Fetcher} {faults later : CatalogFaults}
      {clock now : Instant} {request : FetchRequest} :
      (Crawl.run settings fetch faults later clock now c).asked = some request →
      request.importPath = path → request.reason = .refresh → fetch request = .ok none →
      (Crawl.run settings fetch faults later clock now c).exit = .ok .removed →
      c.Deletes path (Crawl.run settings fetch faults later clock now c).catalog →
      Removes path c (.crawl settings fetch faults later clock now)

variable {c c' : Catalog} {path : String}

namespace Catalog.IsSuppressed

theorem of_find? (h : c.IsSuppressed path)
    (hsame : c'.packages.find? path = c.packages.find? path) : c'.IsSuppressed path := by
  obtain ⟨row, hrow, hsuppressed⟩ := h
  exact ⟨row, hsame.trans hrow, hsuppressed⟩

theorem of_keepsRow (h : c.IsSuppressed path) (hkeeps : c.KeepsRow path c') :
    c'.IsSuppressed path := by
  obtain ⟨row, hrow, hsuppressed⟩ := h
  obtain ⟨row', hrow', rfl | hhidden⟩ := hkeeps.kept row hrow
  · exact ⟨_, hrow', hsuppressed⟩
  · exact ⟨row', hrow', by rw [hhidden.suppressed]; decide⟩

theorem of_changes {p : String → PackageRow → Prop} {f : String → PackageRow → PackageRow}
    (h : c.IsSuppressed path) (hchanges : Table.Changes p f c.packages c'.packages)
    (hflag : ∀ path row, (f path row).suppressed = row.suppressed) : c'.IsSuppressed path := by
  obtain ⟨row, hrow, hsuppressed⟩ := h
  by_cases hp : p path row
  · exact ⟨_, hchanges.changed path row hrow hp, hflag path row ▸ hsuppressed⟩
  · refine ⟨row, (hchanges.others path fun row' hrow' => ?_).trans hrow, hsuppressed⟩
    rwa [Option.some.inj (hrow'.symm.trans hrow)]

theorem of_reschedules {root etag : String} {at' : Instant} (h : c.IsSuppressed path)
    (hmoved : c.Reschedules root etag at' c') : c'.IsSuppressed path :=
  h.of_changes hmoved.changes fun _ _ => rfl

theorem of_bumps {roots : String → Prop} (h : c.IsSuppressed path) (hbumps : c.Bumps roots c') :
    c'.IsSuppressed path :=
  h.of_changes ⟨hbumps.bumped, hbumps.others⟩ fun _ _ => rfl

/-- What a refresh stores has the flag of the package that it was asked about. -/
theorem of_refreshOutcome {settings : CrawlSettings} {faults later : CatalogFaults}
    {now : Instant} {prior : Record} {row : PackageRow}
    {answer : Except Failure (Option Document)} {exit : Except Interruption CrawlOutcome}
    (h : c.IsSuppressed path)
    (hrefresh : Crawl.RefreshOutcome settings faults later now prior c answer exit c')
    (hrow : c.packages.find? prior.importPath = some row)
    (hread : row.record? prior.importPath = some prior)
    (hfetch : ∀ d, answer = .ok (some d) → d.importPath = prior.importPath) :
    c'.IsSuppressed path ∨
      path = prior.importPath ∧ answer = .ok none ∧ exit = .ok .removed ∧ c.Deletes path c' := by
  have hputOff : Crawl.PutOff settings later now prior c c' → c'.IsSuppressed path := by
    rintro (⟨_, hmoved⟩ | _)
    · exact h.of_reschedules hmoved
    · exact h
  cases hrefresh with
  | removed _ hdeletes =>
      by_cases hpath : path = prior.importPath
      · exact .inr ⟨hpath, rfl, rfl, hpath ▸ hdeletes⟩
      · exact .inl (h.of_find? (hdeletes.packages.others path hpath))
  | notModified _ _ hmoved => exact .inl (h.of_reschedules hmoved)
  | @refreshed d c' _ _ hstores =>
      refine .inl ?_
      by_cases hpath : path = d.importPath
      · obtain ⟨row', hrow', hsuppressed⟩ := h
        rw [hpath, hfetch d rfl, hrow] at hrow'
        cases hrow'
        have hflag := (PackageRow.suppressed_of_record? hread).mpr hsuppressed
        exact ⟨_, hpath ▸ hstores.packages.key, by simp [PackageRow.ofDocument, hflag]⟩
      · exact h.of_find? (hstores.packages.others path hpath)
  | notWritten _ hput => exact .inl (hputOff hput)
  | notFetched hput => exact .inl (hputOff hput)
  | crashed => exact .inl h

/-- A first crawl stores its document where no package is. -/
theorem of_newOutcome {settings : CrawlSettings} {faults : CatalogFaults} {clock now : Instant}
    {queued : String} {answer : Except Failure (Option Document)}
    {exit : Except Interruption CrawlOutcome} (h : c.IsSuppressed path)
    (hnew : Crawl.NewOutcome settings faults clock now queued c answer exit c')
    (hunstored : c.packages.find? queued = none)
    (hfetch : ∀ d, answer = .ok (some d) → d.importPath = queued) : c'.IsSuppressed path := by
  cases hnew with
  | @stored d c' _ hstores =>
      refine h.of_find? (hstores.packages.others path ?_)
      -- The hidden package is stored, and what was queued is not.
      rintro rfl
      obtain ⟨row, hrow, _⟩ := h
      rw [hfetch d rfl, hunstored] at hrow
      cases hrow
  | markedBad _ hmarks => exact h.of_find? (by rw [hmarks.packages])
  | notStored | notMarked | notFetched | crashed => exact h

theorem of_enqueue (faults : CatalogFaults) (hasSubdirs : Bool) (clockAt : Nat → Instant)
    (args : List String) (h : c.IsSuppressed path) :
    (Enqueue.enqueue faults hasSubdirs clockAt args c).2.IsSuppressed path :=
  h.of_find? (by rw [packages_enqueue])

end Catalog.IsSuppressed

theorem unstored_of_first (h : c.Apart) {queued : String} {row : QueueRow}
    (hfirst : c.queue.First (·.queuedAt) queued row) : c.packages.find? queued = none := by
  cases hrow : c.packages.find? queued with
  | none => rfl
  | some row' =>
      have hstored := hfirst.stored
      rw [h.not_queued hrow] at hstored
      cases hstored

/-- No errand shows a hidden package; at most it removes it. -/
theorem Errand.keeps {e : Errand} (hfaithful : e.Faithful) {w : Catalog × RunHistory}
    (hapart : w.1.Apart) (h : w.1.IsSuppressed path) :
    (e.run w).1.IsSuppressed path ∨ e.Removes path w.1 := by
  obtain ⟨c, history⟩ := w
  cases e with
  | crawl settings fetch faults later clock now =>
      have htransition : Crawl.Transition settings fetch faults later clock now c
          (Crawl.run settings fetch faults later clock now c) := Crawl.transition_iff_eq_run.mpr rfl
      simp only [Errand.run]
      generalize hresult : Crawl.run settings fetch faults later clock now c = result at htransition
      cases htransition with
      | @new queued row exit c₁ c' _ hfirst hdequeues hnew =>
          have hkept : c₁.IsSuppressed path := h.of_find? (by rw [hdequeues.packages])
          refine .inl (hkept.of_newOutcome hnew ?_ fun d hd => hfaithful _ d hd)
          rw [hdequeues.packages]
          exact unstored_of_first hapart hfirst
      | @refresh prior row r request exit c' _ _ _ hfirst hread _ hasks hrefresh =>
          have hpath : r.importPath = prior := (record?_fields hread).1
          subst hpath
          rcases h.of_refreshOutcome hrefresh hfirst.stored hread fun d hd =>
              (hfaithful request d hd).trans hasks.importPath with
            hkept | ⟨rfl, hfetch, hexit, hdeletes⟩
          · exact .inl hkept
          · refine .inr (.crawl (by rw [hresult]) hasks.importPath hasks.reason hfetch ?_ ?_)
            · rw [hresult, ← hexit]
            · rwa [hresult]
      | notPopped | notSearched | empty | unreadable | notDue => exact .inl h
  | poll feed faultsAt clock =>
      have houtcome : UpdatePoll.Outcome feed faultsAt clock c
          (UpdatePoll.poll feed faultsAt clock c) :=
        (UpdatePoll.outcome_iff_eq_poll feed faultsAt clock c).mpr rfl
      simp only [Errand.run]
      generalize UpdatePoll.poll feed faultsAt clock c = result at houtcome
      cases houtcome with
      | notStored _ _ _ hbumps _ _ => exact .inl (h.of_bumps hbumps)
      | stored _ _ _ hbumps _ _ _ => exact .inl (h.of_bumps hbumps)
      | notRead | corrupt | notAnswered | crashed => exact .inl h
  | suppress scorer faults workers credentialsText? schedule =>
      exact .inl (h.of_keepsRow
        (keepsRow_evaluate hfaithful faults workers credentialsText? schedule c path))
  | cleanUp settings faults now =>
      simp only [Errand.run]
      split <;> exact .inl h
  | queue faults clock queued hasSubdirs =>
      simp only [Errand.run]
      split
      next accepted c' hadd => exact .inl (h.of_find? (by rw [packages_of_access hadd]))
      next => exact .inl h
  | enqueue faults hasSubdirs clockAt args =>
      exact .inl (h.of_enqueue faults hasSubdirs clockAt args)

/-- Errands that begin in a catalog that operations lead to from the empty one, with documents for
the paths that are asked for and scorers that change nothing: a package that is hidden at some
time is hidden ever after, unless some later errand is its refresh, finds no document for it and
removes it from the catalog while it is still hidden. -/
theorem suppressed_until_removed (w : Catalog × RunHistory) (h : Catalog.Leads {} w.1)
    (before after : List Errand) (hfaithful : ∀ e ∈ before ++ after, e.Faithful) (path : String)
    (hsuppressed : (Errand.runAll before w).1.IsSuppressed path) :
    (Errand.runAll (before ++ after) w).1.IsSuppressed path ∨
    ∃ earlier e later, after = earlier ++ e :: later ∧
      (Errand.runAll (before ++ earlier) w).1.IsSuppressed path ∧
      e.Removes path (Errand.runAll (before ++ earlier) w).1 := by
  induction after generalizing before with
  | nil => exact .inl (by rwa [List.append_nil])
  | cons e after ih =>
      have hbefore : ∀ e ∈ before, e.Faithful := fun e he => hfaithful e (by simp [he])
      have hapart : (Errand.runAll before w).1.Apart :=
        Catalog.apart_empty.leads (h.trans (Errand.leads_runAll hbefore w))
      rcases Errand.keeps (hfaithful e (by simp)) hapart hsuppressed with hkept | hremoves
      · have hnext := ih (before ++ [e]) (by simpa using hfaithful)
          (by rwa [Errand.runAll_append])
        rw [List.append_assoc, List.singleton_append] at hnext
        refine hnext.imp_right ?_
        rintro ⟨earlier, e', later, rfl, hstill, hremoves⟩
        refine ⟨e :: earlier, e', later, rfl, ?_⟩
        rw [List.append_assoc, List.singleton_append] at hstill hremoves
        exact ⟨hstill, hremoves⟩
      · exact .inr ⟨[], e, after, rfl, by rwa [List.append_nil], by rwa [List.append_nil]⟩

def hiddenPackage : Catalog :=
  ({} : Catalog).putDocument { importPath := "p", projectRoot := "r" } none true

theorem leads_hiddenPackage : Catalog.Leads {} hiddenPackage := .single (.put _ none true)

/-- Its path is queued from outside, and then it is found changed. -/
def queuedAndChanged : List Errand :=
  [.enqueue (fun _ => none) false (fun _ => .epoch) ["p"],
    .crawl {} (fun request => .ok (some
      { importPath := request.importPath, projectRoot := "r", etag := "2" }))
      (fun _ => none) (fun _ => none) .epoch .epoch]

theorem changed_package_stays_hidden :
    (Errand.runAll queuedAndChanged (hiddenPackage, {})).1.IsSuppressed "p" := by
  have hfaithful : ∀ e ∈ ([] ++ queuedAndChanged), e.Faithful := by
    simp only [List.nil_append, queuedAndChanged, List.forall_mem_cons]
    refine ⟨trivial, ?_, by simp⟩
    intro request d hd
    cases hd
    rfl
  have hkept := suppressed_until_removed (hiddenPackage, {}) leads_hiddenPackage []
    queuedAndChanged hfaithful "p" ⟨_, rfl, by decide⟩
  rcases hkept with hkept | ⟨earlier, e, later, hsplit, _, hremoves⟩
  · exact hkept
  · have hmem : e ∈ queuedAndChanged := by simp [hsplit]
    simp only [queuedAndChanged, List.mem_cons, List.not_mem_nil, or_false] at hmem
    rcases hmem with rfl | rfl
    · cases hremoves
    · cases hremoves with
      | crawl _ _ _ hfetch _ _ => cases hfetch

end PackageIndex
