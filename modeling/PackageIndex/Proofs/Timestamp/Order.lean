import PackageIndex.Proofs.Timestamp
/-!
Timestamps compare as text like the instants that they were written for. Their components have full
width but for the fraction, and of that only groups of zeros are left out at the end, where the
offset follows, whose sign comes before every digit. A year before those of four digits has a sign,
too, so its timestamps come before all of theirs.
-/
namespace PackageIndex

namespace Timestamp

open PackageIndex.Text

/-- A number in groups of three digits, as many as are left, without the zeros at its end. -/
def fractionGroups : Nat → Nat → List Char
  | 0, _ => []
  | left + 1, n =>
    if n = 0 then []
    else padded 3 (n / Nat.pow 1000 left) ++ fractionGroups left (n % Nat.pow 1000 left)

theorem fractionText_eq (nanos : Nat) :
    fractionText nanos = if nanos = 0 then [] else '.' :: fractionGroups 3 nanos := by
  have hsix : padded 6 (nanos / 1000) =
      padded 3 (nanos / 1000000) ++ padded 3 (nanos % 1000000 / 1000) := by
    rw [padded_add 3 3, ← padded_mod 3 (nanos / 1000)]
    simp only [Nat.div_div_eq_div_mul, Nat.pow_eq]
    congr 2
    omega
  have hnine : padded 9 nanos =
      padded 3 (nanos / 1000000) ++ padded 3 (nanos % 1000000 / 1000) ++
        padded 3 (nanos % 1000) := by
    rw [padded_add 6 3, hsix, padded_mod 3]
  have hgroups : fractionGroups 3 nanos =
      if nanos = 0 then [] else padded 3 (nanos / 1000000) ++
        if nanos % 1000000 = 0 then [] else padded 3 (nanos % 1000000 / 1000) ++
          if nanos % 1000 = 0 then [] else padded 3 (nanos % 1000) := by
    simp [fractionGroups]
  rw [fractionText, hgroups, hsix, hnine]
  by_cases hzero : nanos = 0
  · rw [if_pos hzero, if_pos hzero]
  by_cases hmillis : nanos % 1000000 = 0
  · simp only [if_neg hzero, if_pos hmillis, List.append_nil]
  by_cases hmicros : nanos % 1000 = 0
  · simp only [if_neg hzero, if_neg hmillis, if_pos hmicros, List.append_nil]
  · simp only [if_neg hzero, if_neg hmillis, if_neg hmicros, List.append_assoc]

/-- What stands after the groups comes before every digit. -/
theorem fractionGroups_append_lt {c : Char} (hc : c < '0') (rest : List Char) {left m n : Nat}
    (h : m < n) (hn : n < Nat.pow 1000 left) :
    fractionGroups left m ++ c :: rest < fractionGroups left n ++ c :: rest := by
  induction left generalizing m n with
  | zero => exact absurd hn (by simp only [Nat.pow_eq, Nat.pow_zero]; omega)
  | succ left ih =>
    have hpow : Nat.pow 1000 (left + 1) = Nat.pow 1000 left * 1000 := rfl
    rw [fractionGroups, fractionGroups, if_neg (show n ≠ 0 by omega), List.append_assoc]
    by_cases hzero : m = 0
    · rw [if_pos hzero]
      exact cons_lt_padded_append hc 2 _ _ _
    · rw [if_neg hzero, List.append_assoc]
      refine padded_append_lt_of (Nat.div_lt_of_lt_mul (hpow ▸ hn)) ?_
      have hdiv := Nat.div_le_div_right (c := Nat.pow 1000 left) (Nat.le_of_lt h)
      rcases Nat.lt_or_eq_of_le hdiv with hlt | heq
      · exact .inl hlt
      · have hm := Nat.div_add_mod m (Nat.pow 1000 left)
        have hn := Nat.div_add_mod n (Nat.pow 1000 left)
        rw [heq] at hm
        exact .inr ⟨heq, ih (by omega) (Nat.mod_lt _ (Nat.pow_pos (by decide)))⟩

theorem fractionText_append_lt {c : Char} (hc : c < '.') (rest : List Char) {m n : Nat}
    (h : m < n) (hn : n < nanosPerSecond) :
    fractionText m ++ c :: rest < fractionText n ++ c :: rest := by
  have hdigit : c < '0' := Std.lt_trans hc (by decide)
  rw [fractionText_eq, fractionText_eq, if_neg (show n ≠ 0 by omega)]
  split
  · exact List.Lex.rel hc
  · exact List.Lex.cons (fractionGroups_append_lt hdigit rest h hn)

/-- The first component in which the fields differ is less. -/
def Fields.Precedes (f g : Fields) : Prop :=
  f.year < g.year ∨ f.year = g.year ∧
    (f.month < g.month ∨ f.month = g.month ∧
    (f.day < g.day ∨ f.day = g.day ∧
    (f.hour < g.hour ∨ f.hour = g.hour ∧
    (f.minute < g.minute ∨ f.minute = g.minute ∧
    (f.second < g.second ∨ f.second = g.second ∧ f.nanos < g.nanos)))))

/-- The fields that an instant is written with. -/
def fieldsOf (t : Instant) : Fields := secondFields t (t.nanos % nanosPerSecond) 0

variable {t u : Instant}

theorem leap_eq (h : t.OfClock) :
    (if nanosPerSecond ≤ t.nanos then 1 else 0) = t.nanos / nanosPerSecond := by
  have hnanos := h.nanos_lt
  split <;> simp only [nanosPerSecond] at * <;> omega

theorem precedes_of_lt (ht : t.OfClock) (hu : u.OfClock) (h : t < u) :
    (fieldsOf t).Precedes (fieldsOf u) := by
  have hleap := ht.leap
  have hleap' := hu.leap
  have hsecs := Instant.secs_le_of_le (Instant.le_of_lt h)
  rcases Int.lt_or_eq_of_le (Int.ediv_le_ediv (c := secondsPerDay) (by decide) hsecs) with hlt | heq
  · rcases Date.precedes_of_lt hlt with hyear | ⟨hyear, hmonth | ⟨hmonth, hday⟩⟩
    · exact .inl hyear
    · exact .inr ⟨hyear, .inl hmonth⟩
    · exact .inr ⟨hyear, .inr ⟨hmonth, .inl hday⟩⟩
  · refine .inr ⟨?_, .inr ⟨?_, .inr ⟨?_, ?_⟩⟩⟩ <;> simp only [fieldsOf, secondFields, heq]
    rw [leap_eq ht, leap_eq hu]
    rw [Instant.lt_def] at h
    simp only [secondsPerDay, nanosPerSecond] at *
    omega

/-- A component decides, and of equal ones what follows the mark behind it. -/
theorem component_lt {width m n : Nat} {c : Char} {v w : List Char} {P : Prop}
    (hn : n < Nat.pow 10 width) (h : m < n ∨ m = n ∧ P) (hrest : P → v < w) :
    padded width m ++ c :: v < padded width n ++ c :: w :=
  padded_append_lt_of hn (h.imp_right (And.imp_right fun hp => List.Lex.cons (hrest hp)))

theorem text_append (t : Instant) : text t =
    secondText t ++ (fractionText (fieldsOf t).nanos ++ '+' :: "00:00".toList) :=
  List.append_assoc _ _ _

theorem text_lt_of_precedes (ht : t.HasPlainYear) (hu : u.HasPlainYear)
    (h : (fieldsOf t).Precedes (fieldsOf u)) : text t < text u := by
  obtain ⟨hyear, hyear', hmonth, hday, hhour, hminute, hsecond⟩ :=
    fits_secondFields hu (u.nanos % nanosPerSecond) 0
  have hnanos : (fieldsOf u).nanos < nanosPerSecond := Nat.mod_lt _ (by decide)
  have hyears := (fits_secondFields ht (t.nanos % nanosPerSecond) 0).year_nonneg
  have h' := h.imp (fun hlt => (Int.toNat_lt_toNat (Int.lt_of_le_of_lt hyears hlt)).mpr hlt)
    (And.imp_left (congrArg Int.toNat))
  rw [text_append, text_append, secondText_append ht, secondText_append hu]
  refine component_lt hyear' h' fun h => ?_
  refine component_lt hmonth h fun h => ?_
  refine component_lt hday h fun h => ?_
  refine component_lt hhour h fun h => ?_
  refine component_lt hminute h fun h => ?_
  refine padded_append_lt_of hsecond (h.imp_right (And.imp_right fun hlt => ?_))
  exact fractionText_append_lt (by decide) _ hlt hnanos

theorem text_lt_text (ht : t.Writable) (hu : u.Writable) (h : t < u) : text t < text u :=
  text_lt_of_precedes ht.year hu.year (precedes_of_lt ht.clock hu.clock h)

theorem text_lt_text_iff (ht : t.Writable) (hu : u.Writable) : text t < text u ↔ t < u := by
  refine ⟨fun h => Classical.byContradiction fun hnot => ?_, text_lt_text ht hu⟩
  by_cases hgt : u < t
  · exact List.lt_asymm h (text_lt_text hu ht hgt)
  · rw [Instant.le_antisymm (Instant.not_lt.mp hgt) (Instant.not_lt.mp hnot)] at h
    exact List.lt_irrefl _ h

theorem year_mono (h : t ≤ u) : t.year ≤ u.year :=
  Date.year_ofDay_mono (Int.ediv_le_ediv (by decide) (Instant.secs_le_of_le h))

theorem text_of_year_neg (h : t.year < 0) : ∃ rest, text t = '-' :: rest := by
  have hyear : ∃ digits, yearText t.year = '-' :: digits := by
    rw [yearText, if_neg (by omega), if_pos h]
    exact ⟨_, rfl⟩
  obtain ⟨digits, hyear⟩ := hyear
  rw [Instant.year] at hyear
  simp only [text, dateTimeText, secondText, dateText, hyear, List.cons_append]
  exact ⟨_, rfl⟩

/-- Timestamps without a sign compare like instants with all whose years have at most four
digits. -/
theorem text_lt_iff_of_year_le (ht : t.Writable) (hu : u.OfClock) (hyear : u.year ≤ 9999) :
    text t < text u ↔ t < u := by
  by_cases hsign : u.year < 0
  · obtain ⟨rest, htext⟩ := text_of_year_neg hsign
    have hlt : text u < text t := by
      rw [htext, text_append t, secondText_append ht.year 0 0]
      exact cons_lt_padded_append (by decide) 3 _ _ _
    have hnot : ¬ t < u := by
      intro h
      have hyears := year_mono (Instant.le_of_lt h)
      have hplain := ht.year.1
      omega
    exact iff_of_false (List.lt_asymm hlt) hnot
  · exact text_lt_text_iff ht ⟨⟨by omega, hyear⟩, hu⟩

end Timestamp
end PackageIndex
