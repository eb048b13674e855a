import PackageIndex.Cadence
import PackageIndex.Proofs.Instant
/-!
When an entry is due. An attempt moves an entry so that nothing up to the attempt finds it due,
and whatever finds it due later lies strictly past the attempt and the whole interval. The time it
is moved to is the exact sum of the two, however long the interval, unless the calendar ends
before; then the entry is never due again.
-/
namespace PackageIndex.Cadence

theorem isDue_iff {c : Cadence} {now : Instant} :
    c.isDue now = true ↔ c.interval ≠ Span.zero ∧
      (c.nextEligible = none ∨ ∃ next, c.nextEligible = some next ∧ next < now) := by
  rw [isDue, isEnabled, Bool.and_eq_true, decide_eq_true_eq]
  cases c.nextEligible with
  | none => simp
  | some next => simp

theorem isDue_of_le {c : Cadence} {t u : Instant} (h : c.isDue t = true) (ht : t ≤ u) :
    c.isDue u = true := by
  rw [isDue_iff] at *
  refine ⟨h.1, h.2.imp_right ?_⟩
  rintro ⟨next, hnext, hlt⟩
  exact ⟨next, hnext, Instant.lt_of_lt_of_le hlt ht⟩

theorem not_isDue_advance {c : Cadence} {now attemptedAt : Instant} (hnow : now ≤ attemptedAt)
    (hlatest : now ≤ Instant.latest) : (c.advance attemptedAt).isDue now = false := by
  rw [← Bool.not_eq_true, isDue_iff]
  rintro ⟨_, hnone | ⟨next, hnext, hlt⟩⟩
  · cases hnone
  · cases hnext
    exact Instant.not_lt.mpr (Instant.le_after_of_le hnow hlatest) hlt

/-- One interval past an attempt, in nanoseconds, but not past the calendar's end. -/
def exactNext (c : Cadence) (attemptedAt : Instant) : Instant :=
  .ofNanos (min (attemptedAt.toNanos + c.interval.nanos) Instant.latest.toNanos)

section Exact

variable {c c' : Cadence} {t u : Instant}

theorem advance_eq_exactNext (ht : t.Representable) (hleap : t.nanos < nanosPerSecond) :
    c.advance t = { c with nextEligible := some (c.exactNext t) } := by
  rw [advance, Instant.after_min_longest ht.1, Instant.after_eq_ofNanos hleap, exactNext]

theorem toNanos_exactNext (c : Cadence) (t : Instant) :
    (c.exactNext t).toNanos = min (t.toNanos + c.interval.nanos) Instant.latest.toNanos :=
  Instant.toNanos_ofNanos _

theorem nanos_exactNext_lt (c : Cadence) (t : Instant) :
    (c.exactNext t).nanos < nanosPerSecond :=
  Instant.nanos_ofNanos_lt _

theorem le_exactNext (ht : t ≤ Instant.latest) (hleap : t.nanos < nanosPerSecond) :
    t ≤ c.exactNext t := by
  have hend : t.toNanos ≤ Instant.latest.toNanos :=
    (Instant.le_iff_toNanos_le hleap (by decide)).mp ht
  rw [Instant.le_iff_toNanos_le hleap (c.nanos_exactNext_lt t), toNanos_exactNext]
  omega

theorem exactNext_mono (hinterval : c.interval ≤ c'.interval) (hleap : t.nanos < nanosPerSecond)
    (hleap' : u.nanos < nanosPerSecond) (h : t ≤ u) : c.exactNext t ≤ c'.exactNext u := by
  rw [Instant.le_iff_toNanos_le hleap hleap'] at h
  rw [Span.le_def] at hinterval
  rw [Instant.le_iff_toNanos_le (c.nanos_exactNext_lt t) (c'.nanos_exactNext_lt u),
    toNanos_exactNext, toNanos_exactNext]
  omega

theorem exactNext_of_past (h : Instant.latest.toNanos ≤ t.toNanos + c.interval.nanos) :
    c.exactNext t = Instant.latest := by
  rw [exactNext, Int.min_eq_right h, Instant.ofNanos_toNanos (by decide)]

theorem isDue_advance_iff (ht : t.Representable) (hleap : t.nanos < nanosPerSecond)
    (now : Instant) :
    (c.advance t).isDue now = true ↔ c.isEnabled = true ∧ c.exactNext t < now := by
  rw [advance_eq_exactNext ht hleap, isDue, isEnabled, isEnabled, Bool.and_eq_true,
    decide_eq_true_eq (p := c.exactNext t < now)]

/-- An attempt at an instant in no leap second moves an entry exactly one interval on, whether or
not the interval is longer than a delay can be, and at most to the calendar's end. That time is not
before the attempt, and a later attempt or a longer interval never gives an earlier one. An entry
that is enabled is then due past it, so one that was moved to the calendar's end never is. -/
theorem advance_adds_exactly (c : Cadence) {t : Instant} (ht : t.Representable)
    (hleap : t.nanos < nanosPerSecond) :
    c.advance t = { c with nextEligible := some (c.exactNext t) } ∧
    ((c.exactNext t).nanos < nanosPerSecond ∧
      (c.exactNext t).toNanos = min (t.toNanos + c.interval.nanos) Instant.latest.toNanos) ∧
    ((c.exactNext t).Representable ∧ t ≤ c.exactNext t) ∧
    (∀ (c' : Cadence) (u : Instant), u.Representable → u.nanos < nanosPerSecond →
      c.interval ≤ c'.interval → t ≤ u →
      ∃ next, (c'.advance u).nextEligible = some next ∧ c.exactNext t ≤ next) ∧
    (c.isEnabled = true → ∀ now, (c.advance t).isDue now = true ↔ c.exactNext t < now) ∧
    (Instant.latest.toNanos ≤ t.toNanos + c.interval.nanos →
      ∀ now ≤ Instant.latest, (c.advance t).isDue now = false) := by
  have hnext := advance_eq_exactNext (c := c) ht hleap
  refine ⟨hnext, ⟨c.nanos_exactNext_lt t, c.toNanos_exactNext t⟩, ⟨?_, le_exactNext ht.2 hleap⟩,
    fun c' u hu hleap' hinterval h => ?_, fun henabled now => ?_, fun hpast now hnow => ?_⟩
  · have hafter : c.exactNext t = t.after c.interval := (Instant.after_eq_ofNanos hleap _).symm
    rw [hafter]
    exact Instant.representable_after ht _
  · exact ⟨c'.exactNext u, by rw [advance_eq_exactNext hu hleap'],
      exactNext_mono hinterval hleap hleap' h⟩
  · rw [isDue_advance_iff ht hleap, and_iff_right henabled]
  · rw [← Bool.not_eq_true, isDue_advance_iff ht hleap, exactNext_of_past hpast]
    exact fun hdue => Instant.not_lt.mpr hnow hdue.2

/-- The longest interval that can be set, with an attempt in the middle of a second. -/
theorem longest_interval_is_never_due_again :
    let c : Cadence := { interval := ⟨18446744073709551615999999999⟩ }
    let t : Instant := ⟨1704067200, 500000000⟩
    t.Representable ∧ t.nanos < nanosPerSecond ∧
      c.advance t = { c with nextEligible := some Instant.latest } ∧
      ∀ now ≤ Instant.latest, (c.advance t).isDue now = false := by
  intro c t
  have ht : t.Representable := by decide
  have hleap : t.nanos < nanosPerSecond := by decide
  have hpast : Instant.latest.toNanos ≤ t.toNanos + c.interval.nanos := by decide
  obtain ⟨hnext, -, -, -, -, hnever⟩ := advance_adds_exactly c ht hleap
  rw [exactNext_of_past hpast] at hnext
  exact ⟨ht, hleap, hnext, hnever hpast⟩

end Exact

end PackageIndex.Cadence
