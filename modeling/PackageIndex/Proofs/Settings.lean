import PackageIndex.Proofs.Crawl.Retry
import PackageIndex.Settings
/-!
Settings that are accepted are kept to exactly. What is examined is the same window that a crawl
computes: the divisor counts as it is, the maximal age is no longer than a delay can be, and the
calendar reaches it from the clock. Settings that were not examined are cut to what can be
computed, so a crawl by them goes through, too.
-/
namespace PackageIndex

namespace Span

/-- What is met when a span is divided fits its words: the divisor and the nanoseconds have 32 bits
with a sign, the seconds and what is carried over from them 64. -/
structure DivisionFits (s : Span) (d : Nat) : Prop where
  divisor_pos : 0 < d
  divisor_lt : d < 0x80000000
  secs_lt : s.secs < 0x8000000000000000
  carried_lt : s.secs % d * nanosPerSecond < 0x8000000000000000
  nanos_lt : s.subsec / d + s.secs % d * nanosPerSecond / d < 0x80000000

theorem subsec_ofSeconds (n : Nat) : (ofSeconds n).subsec = 0 := Nat.mul_mod_left n _

theorem nanos_divide_le (s : Span) {d : Nat} (hd : 0 < d) : (s.divide d).nanos ≤ s.nanos := by
  calc (s.divide d).nanos
    _ = s.secs * nanosPerSecond / d + s.subsec / d := nanos_divide s hd
    _ ≤ s.secs * nanosPerSecond + s.subsec := Nat.add_le_add (Nat.div_le_self _ _)
        (Nat.div_le_self _ _)
    _ = s.nanos := Nat.div_add_mod' s.nanos nanosPerSecond

theorem divide_ofSeconds (n : Nat) {d : Nat} (hd : 0 < d) :
    (ofSeconds n).divide d = ⟨n * nanosPerSecond / d⟩ := by
  have hnanos := nanos_divide (ofSeconds n) hd
  rw [secs_ofSeconds, subsec_ofSeconds, Nat.zero_div, Nat.add_zero] at hnanos
  rw [← hnanos]

theorem divisionFits {s : Span} {d : Nat} (hs : s ≤ longestDelay) (hpos : 0 < d)
    (hd : d ≤ CrawlSettings.maxDivisor) : s.DivisionFits d := by
  have hsecs : s.secs ≤ longestDelay.secs := secs_le_of_le hs
  have hlongest : longestDelay.secs < 0x8000000000000000 := by decide
  have hrest : s.secs % d < d := Nat.mod_lt _ hpos
  have hsubsec : s.subsec < nanosPerSecond := Nat.mod_lt _ (by decide)
  have hcarried : s.secs % d * nanosPerSecond / d < nanosPerSecond :=
    Nat.div_lt_of_lt_mul (Nat.mul_lt_mul_of_pos_right hrest (by decide))
  have hpart : s.subsec / d ≤ s.subsec := Nat.div_le_self _ _
  simp only [CrawlSettings.maxDivisor] at hd
  refine ⟨hpos, by omega, by omega, ?_, ?_⟩ <;> simp only [nanosPerSecond] at * <;> omega

end Span

namespace CrawlSettings

/-- The maximal age as it is set, however long. -/
def fullMaxAge (s : CrawlSettings) : Span := Span.ofSeconds (s.maxAgeHours.toNat * 3600)

variable {s : CrawlSettings} {clock : Instant}

theorem maxAge_eq (h : s.fullMaxAge ≤ Span.longestDelay) : s.maxAge = s.fullMaxAge := by
  rw [maxAge, Span.min_def]
  exact if_pos h

theorem maxAge_le (s : CrawlSettings) : s.maxAge ≤ Span.longestDelay := by
  rw [maxAge, Span.min_def]
  split
  · assumption
  · exact Nat.le_refl _

theorem countedDivisor_eq (h : s.HasValidDivisor) : s.countedDivisor = s.retryDivisor.toNat := by
  rw [countedDivisor, Nat.min_eq_left h.2, Nat.max_eq_left h.1]

theorem countedDivisor_pos (s : CrawlSettings) : 0 < s.countedDivisor :=
  Nat.lt_of_lt_of_le Nat.zero_lt_one (Nat.le_max_right _ _)

theorem countedDivisor_le (s : CrawlSettings) : s.countedDivisor ≤ maxDivisor :=
  Nat.max_le.mpr ⟨Nat.min_le_right _ _, by decide⟩

theorem retryDelay_eq (s : CrawlSettings) :
    s.retryDelay = max (s.maxAge.divide s.countedDivisor) (Span.ofSeconds 1) := rfl

theorem retryDelay_bounds (s : CrawlSettings) :
    Span.ofSeconds 1 ≤ s.retryDelay ∧ s.retryDelay ≤ Span.longestDelay := by
  have hdivided : s.maxAge.divide s.countedDivisor ≤ Span.longestDelay :=
    Nat.le_trans (Span.nanos_divide_le _ s.countedDivisor_pos) s.maxAge_le
  rw [retryDelay_eq, Span.max_def]
  split
  · exact ⟨Nat.le_refl _, by decide⟩
  next hlt => exact ⟨Nat.le_of_not_le hlt, hdivided⟩

/-- What is examined is whether the calendar has the time. -/
theorem reachesMaxAge_iff (hclock : clock.Representable) :
    s.ReachesMaxAge clock ↔ (clock.plus s.fullMaxAge).Representable := by
  by_cases hfits : s.fullMaxAge ≤ Span.longestDelay
  · have hage : s.exactMaxAge? = some s.fullMaxAge := if_pos hfits
    rw [Instant.representable_plus_iff hclock, ReachesMaxAge, hage, Option.bind_some,
      Instant.after?]
    split <;> simp [*]
  · have hage : s.exactMaxAge? = none := if_neg hfits
    rw [ReachesMaxAge, hage]
    exact iff_of_false Bool.false_ne_true (Instant.not_representable_plus_of_long hclock (Nat.le_of_not_le hfits))

theorem fullMaxAge_le_of_reaches (h : s.ReachesMaxAge clock) :
    s.fullMaxAge ≤ Span.longestDelay := by
  refine Classical.byContradiction fun hlong => ?_
  have hage : s.exactMaxAge? = none := if_neg hlong
  rw [ReachesMaxAge, hage] at h
  cases h

end CrawlSettings

namespace Settings

variable {d : Disk} {clock : Instant} {options : Options} {file : SettingsFile} {dbDir : String}
  {settings : Settings}

theorem resolve_eq_ok_iff (hdir : directory d options file = .ok dbDir) :
    resolve d clock options file = .ok settings ↔
      (combine dbDir options file).crawl.HasValidDivisor ∧
      (combine dbDir options file).crawl.ReachesMaxAge clock ∧
      settings = combine dbDir options file := by
  simp only [resolve, hdir]
  by_cases hdivisor : (combine dbDir options file).crawl.HasValidDivisor
  · by_cases hage : (combine dbDir options file).crawl.ReachesMaxAge clock <;>
      simp [hdivisor, hage, eq_comm]
  · simp [hdivisor]

theorem resolve_fails_iff (hdir : directory d options file = .ok dbDir) :
    (∃ e, resolve d clock options file = .error e) ↔
      ¬ (combine dbDir options file).crawl.HasValidDivisor ∨
      ¬ (combine dbDir options file).crawl.ReachesMaxAge clock := by
  rw [← Decidable.not_and_iff_or_not]
  cases hresolve : resolve d clock options file with
  | error e =>
      refine iff_of_true ⟨e, rfl⟩ fun ⟨hdivisor, hage⟩ => ?_
      have hok := (resolve_eq_ok_iff hdir).mpr ⟨hdivisor, hage, rfl⟩
      rw [hresolve] at hok
      cases hok
  | ok settings =>
      obtain ⟨hdivisor, hage, -⟩ := (resolve_eq_ok_iff hdir).mp hresolve
      exact iff_of_false nofun fun hnot => hnot ⟨hdivisor, hage⟩

/-- With a usable directory settings are refused exactly if their divisor does not count or the
calendar does not reach the maximal age after the clock. Whatever is accepted is kept to exactly: the
maximal age is the one that was set, the retry comes after its part, rounded down, but not before a
second, and the next crawl is not cut to the calendar's end. By any other settings everything can
be computed as well, and the retry comes a second later at the earliest. -/
theorem accepted_settings_are_exact (d : Disk) (clock : Instant) (options : Options)
    (file : SettingsFile) (dbDir : String) (hdir : directory d options file = .ok dbDir)
    (hclock : clock.Representable) :
    ((∃ e, resolve d clock options file = .error e) ↔
      ¬ (1 ≤ (combine dbDir options file).crawl.retryDivisor.toNat ∧
        (combine dbDir options file).crawl.retryDivisor.toNat ≤ 2147483647) ∨
      ¬ (clock.plus (combine dbDir options file).crawl.fullMaxAge).Representable) ∧
    (∀ settings, resolve d clock options file = .ok settings →
      settings = combine dbDir options file ∧
      settings.crawl.maxAge = Span.ofSeconds (settings.crawl.maxAgeHours.toNat * 3600) ∧
      settings.crawl.retryDelay =
        max ⟨settings.crawl.maxAge.nanos / settings.crawl.retryDivisor.toNat⟩
          (Span.ofSeconds 1) ∧
      clock.after? settings.crawl.maxAge = some (clock.plus settings.crawl.maxAge) ∧
      clock.after settings.crawl.maxAge = clock.plus settings.crawl.maxAge) ∧
    ∀ (s : CrawlSettings) (now : Instant), now.Representable →
      s.maxAge ≤ Span.longestDelay ∧ s.maxAge.DivisionFits s.countedDivisor ∧
      Span.ofSeconds 1 ≤ s.retryDelay ∧ s.retryDelay ≤ Span.longestDelay ∧
      (now.after s.maxAge).Representable ∧ (now.after s.retryDelay).Representable := by
  refine ⟨?_, fun settings hresolve => ?_, fun s now hnow => ?_⟩
  · rw [resolve_fails_iff hdir, CrawlSettings.reachesMaxAge_iff hclock]
    rfl
  · obtain ⟨hdivisor, hage, rfl⟩ := (resolve_eq_ok_iff hdir).mp hresolve
    have hmaxAge := CrawlSettings.maxAge_eq (CrawlSettings.fullMaxAge_le_of_reaches hage)
    have hreaches := (CrawlSettings.reachesMaxAge_iff hclock).mp hage
    rw [Instant.representable_plus_iff hclock] at hreaches
    refine ⟨rfl, hmaxAge, ?_, ?_, ?_⟩
    · rw [CrawlSettings.retryDelay_eq, CrawlSettings.countedDivisor_eq hdivisor, hmaxAge,
        CrawlSettings.fullMaxAge, Span.divide_ofSeconds _ hdivisor.1]
      rfl
    · rw [hmaxAge]
      exact if_pos hreaches
    · rw [hmaxAge, Instant.after_eq_plus hreaches]
  · exact ⟨s.maxAge_le, Span.divisionFits s.maxAge_le s.countedDivisor_pos s.countedDivisor_le,
      s.retryDelay_bounds.1, s.retryDelay_bounds.2, Instant.representable_after hnow _,
      Instant.representable_after hnow _⟩

/-- The directory is the root, which is always there. -/
def rootOptions : Options := { dbDir := some "/" }

def hoursFile (hours : UInt64) : SettingsFile :=
  { jobs := { crawl := { maxAgeHours := some hours, retryDivisor := some 11 } } }

/-- The last whole hour that the calendar reaches from the epoch is accepted, and the next one is
refused. -/
theorem last_hour_is_accepted :
    (∀ hours, directory {} rootOptions (hoursFile hours) = .ok "/") ∧
      Instant.epoch.Representable ∧
      (∃ settings, resolve {} .epoch rootOptions (hoursFile 2280629687) = .ok settings ∧
        settings.crawl.retryDelay = ⟨746387897563636363636⟩ ∧
        Instant.epoch.after settings.crawl.maxAge = ⟨8210266873200, 0⟩) ∧
      ∃ e, resolve {} .epoch rootOptions (hoursFile 2280629688) = .error e := by
  have hthere : ({} : Disk).isThere "/" = true := by decide
  have hroot : ({} : Disk).isDirectory "/" = true := by decide
  have hdir : ∀ hours, directory {} rootOptions (hoursFile hours) = .ok "/" := by
    intro hours
    have hwritten : ((hoursFile hours).dbDir <|> rootOptions.dbDir) = some "/" := rfl
    simp only [directory, hwritten, hthere, hroot, Bool.not_true, Bool.false_eq_true, if_false]
  have hclock : Instant.epoch.Representable := by decide
  refine ⟨hdir, hclock, ?_, ?_⟩
  · obtain ⟨hfails, hkept, -⟩ := accepted_settings_are_exact {} .epoch rootOptions
      (hoursFile 2280629687) "/" (hdir _) hclock
    cases hresolve : resolve {} .epoch rootOptions (hoursFile 2280629687) with
    | error e => exact absurd (hfails.mp ⟨e, hresolve⟩) (by decide)
    | ok settings =>
        obtain ⟨rfl, -, hretry, -, hafter⟩ := hkept settings hresolve
        exact ⟨_, rfl, hretry.trans (by decide), hafter.trans (by decide)⟩
  · exact (accepted_settings_are_exact {} .epoch rootOptions (hoursFile 2280629688) "/" (hdir _)
      hclock).1.mpr (.inr (by decide))

end Settings

end PackageIndex
