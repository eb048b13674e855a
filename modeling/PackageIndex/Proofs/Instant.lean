import PackageIndex.Instant
/-!
The order of instants and how addition respects it. An instant moved on by a span is never
earlier than it was, and one moved on by a second or more lies in a later second, unless the
calendar ends before. In nanoseconds the sum is exact, up to the calendar's end.
-/
namespace PackageIndex

namespace Span

theorem le_def {a b : Span} : a ≤ b ↔ a.nanos ≤ b.nanos := Iff.rfl

theorem min_def (a b : Span) : min a b = if a ≤ b then a else b := rfl

theorem max_def (a b : Span) : max a b = if a ≤ b then b else a := rfl

theorem secs_le_of_le {a b : Span} (h : a ≤ b) : a.secs ≤ b.secs := Nat.div_le_div_right h

theorem secs_ofSeconds (n : Nat) : (ofSeconds n).secs = n :=
  Nat.mul_div_cancel n (by decide)

end Span

namespace Instant

variable {t u v : Instant}

theorem lt_irrefl (t : Instant) : ¬ t < t := by
  rw [lt_def]
  omega

theorem lt_trans (h : t < u) (h' : u < v) : t < v := by
  rw [lt_def] at *
  omega

theorem lt_of_lt_of_le (h : t < u) (h' : u ≤ v) : t < v := by
  rw [lt_def, le_def] at *
  omega

theorem lt_of_le_of_lt (h : t ≤ u) (h' : u < v) : t < v := by
  rw [lt_def, le_def] at *
  omega

theorem le_refl (t : Instant) : t ≤ t := by
  rw [le_def]
  omega

theorem le_trans (h : t ≤ u) (h' : u ≤ v) : t ≤ v := by
  rw [le_def] at *
  omega

theorem le_antisymm (h : t ≤ u) (h' : u ≤ t) : t = u := by
  obtain ⟨_, _⟩ := t
  obtain ⟨_, _⟩ := u
  simp only [le_def, Instant.mk.injEq] at *
  omega

theorem le_of_lt (h : t < u) : t ≤ u := by
  rw [lt_def] at h
  rw [le_def]
  omega

theorem not_lt : ¬ t < u ↔ u ≤ t := by
  rw [lt_def, le_def]
  omega

theorem lt_of_secs_lt (h : t.secs < u.secs) : t < u := .inl h

theorem secs_le_of_le (h : t ≤ u) : t.secs ≤ u.secs := by
  rw [le_def] at h
  omega

theorem le_max_left (t u : Instant) : t ≤ max t u := by
  simp only [max]
  split
  · assumption
  · exact le_refl t

theorem le_ofNanos {n : Int} (h : t.nanos < nanosPerSecond) (hn : t.toNanos ≤ n) :
    t ≤ ofNanos n := by
  simp only [le_def, ofNanos, toNanos, nanosPerSecond] at *
  omega

theorem secs_lt_ofNanos {n : Int} (hn : (t.secs + 1) * nanosPerSecond ≤ n) :
    t.secs < (ofNanos n).secs := by
  simp only [ofNanos, nanosPerSecond] at *
  omega

theorem le_plus (t : Instant) (s : Span) : t ≤ t.plus s := by
  rw [plus]
  split
  next hnanos => exact le_ofNanos hnanos (by omega)
  next hleap =>
    split
    · exact .inr ⟨rfl, Nat.le_add_right _ _⟩
    next hcross =>
      refine .inl (secs_lt_ofNanos ?_)
      simp only [toNanos, nanosPerSecond] at *
      omega

/-- Adding more whole seconds than a bound adds more than the bound. -/
theorem secs_plus_gt {s : Span} {n : Nat} (h : n + 1 ≤ s.secs) :
    t.secs + n < (t.plus s).secs := by
  simp only [Span.secs, nanosPerSecond] at h
  rw [plus]
  split
  · simp only [ofNanos, toNanos, nanosPerSecond] at *
    omega
  · split
    · simp only [nanosPerSecond] at *
      omega
    · simp only [ofNanos, toNanos, nanosPerSecond] at *
      omega

theorem after_eq_plus {s : Span} (h : (t.plus s).secs ≤ latest.secs) : t.after s = t.plus s := by
  simp only [after, after?, if_pos h, Option.getD_some]

theorem after_eq_latest {s : Span} (h : ¬ (t.plus s).secs ≤ latest.secs) : t.after s = latest := by
  simp only [after, after?, if_neg h, Option.getD_none]

theorem before_eq_minus {s : Span} (h : earliest.secs ≤ (t.minus s).secs) :
    t.before s = t.minus s := by
  simp only [before, before?, if_pos h, Option.getD_some]

theorem before_eq_earliest {s : Span} (h : ¬ earliest.secs ≤ (t.minus s).secs) :
    t.before s = earliest := by
  simp only [before, before?, if_neg h, Option.getD_none]

/-- What is not later than an instant is not later than that one moved on. -/
theorem le_after_of_le {s : Span} (h : t ≤ u) (ht : t ≤ latest) : t ≤ u.after s := by
  by_cases hfits : (u.plus s).secs ≤ latest.secs
  · rw [after_eq_plus hfits]
    exact le_trans h (le_plus u s)
  · rwa [after_eq_latest hfits]

/-- No calendar reaches as far as the longest delay. -/
theorem latest_lt_plus_of_long {s : Span} (ht : earliest ≤ t) (hs : Span.longestDelay ≤ s) :
    latest.secs < (t.plus s).secs := by
  have hsecs : (latest.secs - earliest.secs).toNat + 1 ≤ s.secs :=
    Nat.le_trans (by decide) (Span.secs_le_of_le hs)
  have hpast := secs_plus_gt (t := t) hsecs
  have hearly := secs_le_of_le ht
  simp only [earliest, latest] at *
  omega

/-- A long span cut to the longest delay goes past the calendar's end as well. -/
theorem after_min_longest (ht : earliest ≤ t) (s : Span) :
    t.after (min s Span.longestDelay) = t.after s := by
  rw [Span.min_def]
  split
  · rfl
  next hlong =>
    have hs : Span.longestDelay ≤ s := Nat.le_of_not_le hlong
    rw [after_eq_latest (Int.not_le.mpr (latest_lt_plus_of_long ht (Nat.le_refl _))),
      after_eq_latest (Int.not_le.mpr (latest_lt_plus_of_long ht hs))]

/-- What the calendar covers and lies after an instant moved on by a span, a long one cut to the
longest delay, lies after the exact sum, too. -/
theorem plus_lt_of_after_lt {s : Span} (ht : earliest ≤ t)
    (hlt : t.after (min s Span.longestDelay) < u) (hu : u ≤ latest) : t.plus s < u := by
  rw [after_min_longest ht] at hlt
  by_cases hfits : (t.plus s).secs ≤ latest.secs
  · rwa [after_eq_plus hfits] at hlt
  · rw [after_eq_latest hfits] at hlt
    exact absurd (lt_of_lt_of_le hlt hu) (lt_irrefl latest)

theorem nanos_ofNanos_lt (n : Int) : (ofNanos n).nanos < nanosPerSecond := by
  simp only [ofNanos, nanosPerSecond]
  omega

/-- A sum is no leap second, unless it has stayed in one. -/
theorem nanos_plus_lt_or (t : Instant) (s : Span) :
    (t.plus s).nanos < nanosPerSecond ∨ nanosPerSecond ≤ t.nanos ∧ (t.plus s).secs = t.secs := by
  rw [plus]
  split
  · exact .inl (nanos_ofNanos_lt _)
  next hleap =>
    split
    · exact .inr ⟨Nat.le_of_not_lt hleap, rfl⟩
    · exact .inl (nanos_ofNanos_lt _)

/-- The calendar ends with the last nanosecond of a second, and only a leap second goes on. -/
theorem plus_le_latest_iff {s : Span} (ht : t ≤ latest) :
    t.plus s ≤ latest ↔ (t.plus s).secs ≤ latest.secs := by
  refine ⟨secs_le_of_le, fun h => ?_⟩
  have hnanos := nanos_plus_lt_or t s
  simp only [le_def, latest, nanosPerSecond] at *
  omega

theorem representable_plus_iff {s : Span} (ht : t.Representable) :
    (t.plus s).Representable ↔ (t.plus s).secs ≤ latest.secs := by
  rw [← plus_le_latest_iff ht.2]
  exact and_iff_right (le_trans ht.1 (le_plus t s))

theorem not_representable_plus_of_long {s : Span} (ht : t.Representable)
    (hs : Span.longestDelay ≤ s) : ¬ (t.plus s).Representable := by
  rw [representable_plus_iff ht]
  exact Int.not_le.mpr (latest_lt_plus_of_long ht.1 hs)

theorem representable_after (ht : t.Representable) (s : Span) : (t.after s).Representable := by
  by_cases hfits : (t.plus s).secs ≤ latest.secs
  · rw [after_eq_plus hfits]
    exact (representable_plus_iff ht).mpr hfits
  · rw [after_eq_latest hfits]
    decide

theorem toNanos_ofNanos (n : Int) : (ofNanos n).toNanos = n := by
  simp only [toNanos, ofNanos, nanosPerSecond]
  omega

/-- Instants in no leap second are in order as their nanoseconds are. -/
theorem le_iff_toNanos_le (ht : t.nanos < nanosPerSecond) (hu : u.nanos < nanosPerSecond) :
    t ≤ u ↔ t.toNanos ≤ u.toNanos := by
  simp only [le_def, toNanos, nanosPerSecond] at *
  omega

theorem ofNanos_toNanos (ht : t.nanos < nanosPerSecond) : ofNanos t.toNanos = t := by
  obtain ⟨secs, nanos⟩ := t
  simp only [ofNanos, toNanos, nanosPerSecond, Instant.mk.injEq] at *
  omega

/-- An instant in no leap second is moved on by the exact sum, up to the calendar's end. -/
theorem after_eq_ofNanos (ht : t.nanos < nanosPerSecond) (s : Span) :
    t.after s = ofNanos (min (t.toNanos + s.nanos) latest.toNanos) := by
  have hplus : t.plus s = ofNanos (t.toNanos + s.nanos) := if_pos ht
  have hle : t.toNanos + s.nanos ≤ latest.toNanos ↔ (t.plus s).secs ≤ latest.secs := by
    rw [hplus]
    simp only [ofNanos, toNanos, latest, nanosPerSecond]
    omega
  by_cases hfits : (t.plus s).secs ≤ latest.secs
  · rw [after_eq_plus hfits, hplus, Int.min_eq_left (hle.mpr hfits)]
  · have hlatest : latest.nanos < nanosPerSecond := by decide
    rw [after_eq_latest hfits, Int.min_eq_right (Int.le_of_not_le (mt hle.mp hfits)),
      ofNanos_toNanos hlatest]

theorem secs_after_le (t : Instant) (s : Span) : (t.after s).secs ≤ latest.secs := by
  by_cases hfits : (t.plus s).secs ≤ latest.secs
  · rwa [after_eq_plus hfits]
  · exact Int.le_of_eq (congrArg secs (after_eq_latest hfits))

theorem secs_lt_after {s : Span} (h : t.secs < latest.secs) (hs : 1 ≤ s.secs) :
    t.secs < (t.after s).secs := by
  by_cases hfits : (t.plus s).secs ≤ latest.secs
  · rw [after_eq_plus hfits]
    have hplus : t.secs + (0 : Nat) < (t.plus s).secs := secs_plus_gt (by omega)
    omega
  · rwa [after_eq_latest hfits]

/-- Whole seconds are read back as later than an instant when they are, whichever of them the
calendar covers. -/
theorem lt_ofUnix {secs : Int} (h : t.secs < secs) (hsecs : secs ≤ latest.secs) :
    t < ofUnix secs := by
  rw [ofUnix]
  split
  · exact lt_of_secs_lt h
  next hout =>
    apply lt_of_secs_lt
    simp only [earliest, latest, epoch] at *
    omega

theorem ofUnix_of_representable (h : t.Representable) : ofUnix t.secs = t.wholeSecond := by
  rw [ofUnix, if_pos ⟨secs_le_of_le h.1, secs_le_of_le h.2⟩, wholeSecond]

theorem epoch_le_ofUnix {secs : Int} (h : epoch.secs ≤ secs) : epoch ≤ ofUnix secs := by
  rw [ofUnix]
  split
  · rw [le_def]
    simp only [epoch] at *
    omega
  · exact le_refl epoch

end Instant

end PackageIndex
