import PackageIndex.Proofs.Crawl.Progress
/-!
Refreshes that fail. Whether the fetch fails or the operation that would store what was found, the
packages that share project and etag with the stored one are put off by the retry delay, and nothing
else changes; the package's new time lies after the run and after its old time. Only where this
write is refused, too, the catalog stays as it is.
-/
namespace PackageIndex

/-- The divisor that counts: no zero, and none beyond the greatest one. -/
def CrawlSettings.countedDivisor (s : CrawlSettings) : Nat :=
  max (min s.retryDivisor.toNat maxDivisor) 1

/-- The remainder of the whole seconds is carried over, so dividing loses less than a nanosecond of
them and less than one of the rest. -/
theorem Span.nanos_divide (s : Span) {d : Nat} (hd : 0 < d) :
    (s.divide d).nanos = s.secs * nanosPerSecond / d + s.subsec / d := by
  have hcarry : s.secs * nanosPerSecond / d =
      s.secs / d * nanosPerSecond + s.secs % d * nanosPerSecond / d := by
    calc s.secs * nanosPerSecond / d
      _ = (d * (s.secs / d) + s.secs % d) * nanosPerSecond / d := by rw [Nat.div_add_mod]
      _ = (d * (s.secs / d * nanosPerSecond) + s.secs % d * nanosPerSecond) / d := by
          rw [Nat.add_mul, Nat.mul_assoc]
      _ = s.secs / d * nanosPerSecond + s.secs % d * nanosPerSecond / d :=
          Nat.mul_add_div hd _ _
  rw [divide, hcarry]

theorem CrawlSettings.nanos_retryDelay (s : CrawlSettings) :
    s.retryDelay.nanos =
      max (s.maxAge.secs * nanosPerSecond / s.countedDivisor + s.maxAge.subsec / s.countedDivisor)
        nanosPerSecond := by
  have hpos : 0 < s.countedDivisor := Nat.lt_of_lt_of_le Nat.zero_lt_one (Nat.le_max_right _ _)
  have hdelay : s.retryDelay = max (s.maxAge.divide s.countedDivisor) (Span.ofSeconds 1) := rfl
  rw [← Span.nanos_divide _ hpos, hdelay, Span.max_def]
  split
  next hle =>
    have hle' : (s.maxAge.divide s.countedDivisor).nanos ≤ nanosPerSecond := hle
    rw [Nat.max_eq_right hle']
    rfl
  next hlt =>
    have hlt' : ¬ (s.maxAge.divide s.countedDivisor).nanos ≤ nanosPerSecond := hlt
    rw [Nat.max_eq_left (Nat.le_of_not_le hlt')]

namespace Crawl

/-- A refresh fails: nothing was told of the package, or the operation that stores what was found is
refused. -/
inductive Fails (faults : CatalogFaults) (prior : Document) :
    Except Failure (Option Document) → Prop
  | notFetched {reason : String} : Fails faults prior (.error (.error reason))
  | notDeleted {reason : String} :
      faults (.delete prior.importPath) = some reason → Fails faults prior (.ok none)
  | notRescheduled {d : Document} {reason : String} :
      SameVersion prior d → faults (.setNextCrawl d.projectRoot) = some reason →
      Fails faults prior (.ok (some d))
  | notStored {d : Document} {reason : String} :
      ¬ SameVersion prior d → faults (.put d.importPath) = some reason →
      Fails faults prior (.ok (some d))

variable {settings : CrawlSettings} {faults later : CatalogFaults} {now : Instant} {r : Record}
  {c c' : Catalog} {answer : Except Failure (Option Document)}
  {exit : Except Interruption CrawlOutcome}

theorem fails_ok_iff {document? : Option Document} :
    Fails faults r.document (.ok document?) ↔
      ∃ reason, faults (refreshOp r document?) = some reason := by
  constructor
  · rintro (_ | hfault | ⟨hsame, hfault⟩ | ⟨hother, hfault⟩)
    · exact ⟨_, hfault⟩
    · exact ⟨_, by rwa [refreshOp, if_pos hsame]⟩
    · exact ⟨_, by rwa [refreshOp, if_neg hother]⟩
  · rintro ⟨reason, hfault⟩
    cases document? with
    | none => exact .notDeleted hfault
    | some d =>
        by_cases hsame : SameVersion r.document d
        · rw [refreshOp, if_pos hsame] at hfault
          exact .notRescheduled hsame hfault
        · rw [refreshOp, if_neg hsame] at hfault
          exact .notStored hsame hfault

theorem not_fails_of_granted {document? : Option Document}
    (h : faults (refreshOp r document?) = none) : ¬ Fails faults r.document (.ok document?) := by
  rw [fails_ok_iff]
  rintro ⟨reason, hfault⟩
  rw [h] at hfault
  cases hfault

theorem RefreshOutcome.failed_iff
    (h : RefreshOutcome settings faults later now r c answer exit c') :
    exit = .ok .refreshFailed ↔ Fails faults r.document answer := by
  cases h with
  | removed hf => exact iff_of_false nofun (not_fails_of_granted hf)
  | notModified _ hf => exact iff_of_false nofun (not_fails_of_granted hf)
  | refreshed _ hf => exact iff_of_false nofun (not_fails_of_granted hf)
  | notWritten hf => exact iff_of_true rfl (fails_ok_iff.mpr ⟨_, hf⟩)
  | notFetched => exact iff_of_true rfl .notFetched
  | crashed => exact iff_of_false nofun nofun

theorem RefreshOutcome.putOff (h : RefreshOutcome settings faults later now r c answer exit c')
    (hfails : Fails faults r.document answer) : PutOff settings later now r c c' := by
  have hexit := h.failed_iff.mpr hfails
  cases h with
  | notWritten _ hput => exact hput
  | notFetched hput => exact hput
  | removed | notModified | refreshed | crashed => cases hexit

/-- A refresh ends as failed exactly if the fetch fails or what was found is not stored. Then the
packages with the stored project and etag get the time of the run and the retry delay, cut to the
whole second, unless this is refused, too, and nothing else changes. The package is read with this
time afterwards, which is later than the run and later than its time before. -/
theorem failed_refresh_is_put_off (settings : CrawlSettings) (fetch : Fetcher)
    (faults later : CatalogFaults) (clock now : Instant) (c : Catalog) (request : FetchRequest)
    (prior : Document)
    (hasked : (run settings fetch faults later clock now c).asked = some request)
    (hprior : request.prior = some prior)
    (hretry : (now.plus settings.retryDelay).Representable) :
    ((run settings fetch faults later clock now c).exit = .ok .refreshFailed ↔
      Fails faults prior (fetch request)) ∧
    (Fails faults prior (fetch request) →
      (∀ reason, later (.setNextCrawl prior.projectRoot) = some reason →
        (run settings fetch faults later clock now c).catalog = c) ∧
      (later (.setNextCrawl prior.projectRoot) = none →
        c.Reschedules prior.projectRoot prior.etag (now.plus settings.retryDelay)
          (run settings fetch faults later clock now c).catalog ∧
        ∃ old new : Entry, c.get prior.importPath = .ok (some old) ∧
          (run settings fetch faults later clock now c).catalog.get prior.importPath =
            .ok (some new) ∧
          new.record =
            { old.record with nextCrawl := (now.plus settings.retryDelay).wholeSecond } ∧
          now < new.record.nextCrawl ∧ old.record.nextCrawl < new.record.nextCrawl)) ∧
    settings.retryDelay.nanos =
      max (settings.maxAge.secs * nanosPerSecond / settings.countedDivisor +
        settings.maxAge.subsec / settings.countedDivisor) nanosPerSecond := by
  have hrun : Transition settings fetch faults later clock now c
      (run settings fetch faults later clock now c) := transition_iff_eq_run.mpr rfl
  obtain ⟨_, path, row, r, hfirst, hread, hdue, hasks, hrefresh⟩ :=
    hrun.refresh_of_prior hasked hprior
  obtain rfl : prior = r.document := Option.some.inj (hprior.symm.trans hasks.prior)
  obtain ⟨rfl, hroot, hetag, _⟩ := record?_fields hread
  have hlatest : (now.plus settings.retryDelay).secs ≤ Instant.latest.secs :=
    Instant.secs_le_of_le hretry.2
  refine ⟨hrefresh.failed_iff, fun hfails => ?_, settings.nanos_retryDelay⟩
  have hput := hrefresh.putOff hfails
  generalize (run settings fetch faults later clock now c).catalog = c' at hput
  -- the write of the retry is refused, or it moves the rows of the stored project and etag
  cases hput with
  | refused hrefused =>
      refine ⟨fun _ _ => rfl, fun hgranted => ?_⟩
      rw [hrefused] at hgranted
      cases hgranted
  | moved hgranted hmoved =>
      refine ⟨fun reason hrefused => ?_, fun _ => ?_⟩
      · rw [hgranted] at hrefused
        cases hrefused
      rw [Instant.after_eq_plus hlatest] at hmoved
      have hrow := hmoved.moved _ _ hfirst.stored ⟨hroot.symm, hetag.symm⟩
      have hread' := PackageRow.record?_moved hread (now.plus settings.retryDelay).secs
      rw [Instant.ofUnix_of_representable hretry] at hread'
      have hlater : now < (now.plus settings.retryDelay).wholeSecond :=
        Instant.lt_of_secs_lt (by
          have hsecs := Instant.secs_plus_gt (t := now) (n := 0) (one_le_retryDelay settings)
          simpa [Instant.wholeSecond] using hsecs)
      refine ⟨hmoved, c.entry r, c'.entry _, ?_, ?_, rfl, hlater, ?_⟩
      · exact Catalog.get_eq_some_iff.mpr ⟨row, r, hfirst.stored, hread, rfl⟩
      · exact Catalog.get_eq_some_iff.mpr ⟨_, _, hrow, hread', rfl⟩
      · exact Instant.lt_of_le_of_lt (Instant.not_lt.mp hdue) hlater

def unreachable : Fetcher := fun _ => .error (.error "down")

/-- A package that cannot be fetched is put off by a third of a day, from the whole second on. -/
theorem unreachable_package_is_put_off :
    ∃ old new : Entry, oneDue.get "p" = .ok (some old) ∧
      (run {} unreachable (fun _ => none) (fun _ => none) ⟨200, 0⟩ ⟨200, 999999999⟩
        oneDue).catalog.get "p" = .ok (some new) ∧
      new.record = { old.record with nextCrawl := ⟨29000, 0⟩ } := by
  obtain ⟨_, hputOff, _⟩ :=
    failed_refresh_is_put_off {} unreachable (fun _ => none) (fun _ => none) ⟨200, 0⟩
      ⟨200, 999999999⟩ oneDue dueRequest dueDocument (by decide) rfl (by decide)
  obtain ⟨_, old, new, hold, hnew, hrecord, _⟩ := (hputOff .notFetched).2 rfl
  exact ⟨old, new, hold, hnew, hrecord⟩

/-- The greatest divisor that can be written does not count in full: the package is put off by the
maximal age over the greatest divisor that counts, about twice as long. -/
theorem great_divisor_does_not_count :
    let settings : CrawlSettings := { maxAgeHours := 1000000000, retryDivisor := 0xffffffff }
    let result := run settings unreachable (fun _ => none) (fun _ => none) ⟨200, 0⟩ ⟨200, 0⟩ oneDue
    result.asked = some dueRequest ∧ result.exit = .ok .refreshFailed ∧
    result.catalog.packages.find? "p" = some (.ofDocument dueDocument 1876 false) ∧
    ((⟨200, 0⟩ : Instant).plus (max (settings.maxAge.divide settings.retryDivisor.toNat)
      (Span.ofSeconds 1))).secs = 1038 := by
  intro settings result
  exact ⟨by decide, rfl, by decide, by decide⟩

end Crawl

end PackageIndex
