import PackageIndex.Timestamp
import PackageIndex.Proofs.Calendar
import PackageIndex.Proofs.Instant
import PackageIndex.Proofs.Text.Digits
/-!
Timestamps read back. What is written of an instant in the years from 0 to 9999 denotes that
instant again, up to the digits left out: the timestamp of the whole second denotes the instant
without its fraction. An instant that was read is one that can be written.
-/
namespace PackageIndex

namespace Instant

def year (t : Instant) : Int := (Date.ofDay (t.secs / secondsPerDay)).year

/-- A year of four digits without a sign. -/
def HasPlainYear (t : Instant) : Prop := 0 ≤ t.year ∧ t.year ≤ 9999

instance (t : Instant) : Decidable t.HasPlainYear := inferInstanceAs (Decidable (_ ∧ _))

/-- A leap second is the end of a minute. -/
structure OfClock (t : Instant) : Prop where
  nanos_lt : t.nanos < 2 * nanosPerSecond
  leap : nanosPerSecond ≤ t.nanos → t.secs % 60 = 59

instance (t : Instant) : Decidable t.OfClock :=
  decidable_of_iff (t.nanos < 2 * nanosPerSecond ∧ (nanosPerSecond ≤ t.nanos → t.secs % 60 = 59))
    ⟨fun h => ⟨h.1, h.2⟩, fun h => ⟨h.nanos_lt, h.leap⟩⟩

/-- What a timestamp can say. -/
structure Writable (t : Instant) : Prop where
  year : t.HasPlainYear
  clock : t.OfClock

instance (t : Instant) : Decidable t.Writable :=
  decidable_of_iff (t.HasPlainYear ∧ t.OfClock)
    ⟨fun h => ⟨h.1, h.2⟩, fun h => ⟨h.year, h.clock⟩⟩

/-- An instant without its fraction of a second; a leap second is a second of its own. -/
def truncated (t : Instant) : Instant := ⟨t.secs, t.nanos / nanosPerSecond * nanosPerSecond⟩

variable {t u : Instant}

theorem truncated_le (t : Instant) : t.truncated ≤ t := by
  rw [le_def]
  exact .inr ⟨rfl, Nat.div_mul_le_self _ _⟩

theorem truncated_mono (h : t ≤ u) : t.truncated ≤ u.truncated := by
  simp only [le_def, truncated, nanosPerSecond] at *
  omega

theorem truncated_truncated (t : Instant) : t.truncated.truncated = t.truncated := by
  simp only [truncated, nanosPerSecond, Instant.mk.injEq, true_and]
  omega

/-- What lies between two instants of one second lies in that second. -/
theorem truncated_eq_of_between {v : Instant} (htu : t ≤ u) (huv : u ≤ v)
    (h : t.truncated = v.truncated) : u.truncated = v.truncated :=
  le_antisymm (truncated_mono huv) (h ▸ truncated_mono htu)

theorem OfClock.truncated (h : t.OfClock) : t.truncated.OfClock := by
  have hle : t.truncated.nanos ≤ t.nanos := Nat.div_mul_le_self _ _
  exact ⟨Nat.lt_of_le_of_lt hle h.nanos_lt, fun hleap => h.leap (Nat.le_trans hleap hle)⟩

theorem ofClock_ofNanos (n : Int) : (ofNanos n).OfClock := by
  refine ⟨?_, fun hleap => ?_⟩ <;> simp only [ofNanos, nanosPerSecond] at * <;> omega

theorem OfClock.minus (h : t.OfClock) (s : Span) : (t.minus s).OfClock := by
  rw [Instant.minus]
  split
  · exact ⟨Nat.lt_of_le_of_lt (Nat.sub_le _ _) h.nanos_lt,
      fun hleap => h.leap (Nat.le_trans hleap (Nat.sub_le _ _))⟩
  · exact ofClock_ofNanos _

theorem Writable.truncated (h : t.Writable) : t.truncated.Writable := ⟨h.year, h.clock.truncated⟩

end Instant

namespace Timestamp

open PackageIndex.Text

variable {t : Instant}

theorem secs_bounds (h : t.HasPlainYear) :
    Instant.earliest.secs + secondsPerDay ≤ t.secs ∧ t.secs + secondsPerDay ≤ Instant.latest.secs := by
  have hday := Date.year_ofDay_bounds (t.secs / secondsPerDay)
  simp only [Instant.HasPlainYear, Instant.year, Instant.earliest, Instant.latest, secondsPerDay] at *
  omega

/-- After what a reader finds, the readers after it go on. -/
theorem bind_of_some {α β : Type} {x : Option α} {f : α → Option β} {a : α} {b : Option β}
    (h : x = some a) (hf : f a = b) : (x >>= f) = b := by
  rw [h]
  exact hf

theorem char?_cons (c : Char) (rest : List Char) : char? c (c :: rest) = some rest := if_pos rfl

theorem takeTwo_padded {n : Nat} (h : n < 100) (rest : List Char) :
    takeDigits? 2 0 (padded 2 n ++ rest) = some (n, rest) := takeDigits?_padded h rest

/-- Components of full width are read as they are; a fraction and an offset follow them. -/
theorem fields?_padded {year month day hour minute second nanos : Nat} {offset : Int}
    {fraction zone : List Char} (hyear : year < 10000) (hmonth : month < 100) (hday : day < 100)
    (hhour : hour < 100) (hminute : minute < 100) (hsecond : second < 100)
    (hfraction : optionalFraction? fraction = some (nanos, zone))
    (hzone : readOffset? (char? ':') zone = some (offset, []))
    (hoffset : -maxOffset ≤ offset ∧ offset ≤ maxOffset) :
    fields? (padded 4 year ++ '-' :: (padded 2 month ++ '-' :: (padded 2 day ++
      'T' :: (padded 2 hour ++ ':' :: (padded 2 minute ++ ':' :: (padded 2 second ++ fraction))))))
      = some { year, month, day, hour, minute, second, nanos, offset } := by
  unfold fields?
  refine bind_of_some (takeDigits?_padded hyear _) ?_
  refine bind_of_some (char?_cons _ _) ?_
  refine bind_of_some (takeTwo_padded hmonth _) ?_
  refine bind_of_some (char?_cons _ _) ?_
  refine bind_of_some (takeTwo_padded hday _) ?_
  refine bind_of_some (show mark? ('T' :: _) = some _ from rfl) ?_
  refine bind_of_some (takeTwo_padded hhour _) ?_
  refine bind_of_some (char?_cons _ _) ?_
  refine bind_of_some (takeTwo_padded hminute _) ?_
  refine bind_of_some (char?_cons _ _) ?_
  refine bind_of_some (takeTwo_padded hsecond _) ?_
  refine bind_of_some hfraction ?_
  refine bind_of_some hzone ?_
  exact if_pos ⟨rfl, hoffset⟩

/-- The fields that a second is written with. -/
def secondFields (t : Instant) (nanos : Nat) (offset : Int) : Fields :=
  let date := Date.ofDay (t.secs / secondsPerDay)
  let second := (t.secs % secondsPerDay).toNat
  { year := date.year
    month := date.month
    day := date.day
    hour := second / 3600
    minute := second / 60 % 60
    second := second % 60 + if nanosPerSecond ≤ t.nanos then 1 else 0
    nanos, offset }

theorem secs_mod_lt (t : Instant) : (t.secs % secondsPerDay).toNat < 86400 := by
  simp only [secondsPerDay]
  omega

/-- A second is written as its fields, each with its full width. -/
theorem secondText_append (h : t.HasPlainYear) (nanos : Nat) (offset : Int) (rest : List Char) :
    secondText t ++ rest =
      padded 4 (secondFields t nanos offset).year.toNat ++
        '-' :: (padded 2 (secondFields t nanos offset).month ++
        '-' :: (padded 2 (secondFields t nanos offset).day ++
        'T' :: (padded 2 (secondFields t nanos offset).hour ++
        ':' :: (padded 2 (secondFields t nanos offset).minute ++
        ':' :: (padded 2 (secondFields t nanos offset).second ++ rest))))) := by
  have hplain : 0 ≤ (Date.ofDay (t.secs / secondsPerDay)).year ∧
      (Date.ofDay (t.secs / secondsPerDay)).year ≤ 9999 := h
  simp only [secondText, dateText, timeText, yearText, if_pos hplain, secondFields,
    List.append_assoc, List.cons_append, decide_eq_true_eq]

/-- What fits into the width that each field of a second is written with. -/
structure Fields.Fits (f : Fields) : Prop where
  year_nonneg : 0 ≤ f.year
  year_lt : f.year.toNat < 10000
  month_lt : f.month < 100
  day_lt : f.day < 100
  hour_lt : f.hour < 100
  minute_lt : f.minute < 100
  second_lt : f.second < 100

theorem fits_secondFields (h : t.HasPlainYear) (nanos : Nat) (offset : Int) :
    (secondFields t nanos offset).Fits := by
  obtain ⟨hyear, hyear'⟩ := h
  rw [Instant.year] at hyear hyear'
  have hmonth := Date.month_ofDay_le (t.secs / secondsPerDay)
  have hday := Date.day_ofDay_le (t.secs / secondsPerDay)
  have hsecond := secs_mod_lt t
  have hleap : (if nanosPerSecond ≤ t.nanos then 1 else 0) ≤ 1 := by split <;> decide
  constructor <;> simp only [secondFields] <;> omega

/-- Date and time are read as they were written, whatever fraction and offset follow. -/
theorem fields?_secondText (h : t.HasPlainYear) {fraction zone : List Char} {nanos : Nat}
    {offset : Int} (hfraction : optionalFraction? fraction = some (nanos, zone))
    (hzone : readOffset? (char? ':') zone = some (offset, []))
    (hoffset : -maxOffset ≤ offset ∧ offset ≤ maxOffset) :
    fields? (secondText t ++ fraction) = some (secondFields t nanos offset) := by
  obtain ⟨hyear, hyear', hmonth, hday, hhour, hminute, hsecond⟩ := fits_secondFields h nanos offset
  rw [secondText_append h nanos offset, fields?_padded hyear' hmonth hday hhour hminute hsecond
    hfraction hzone hoffset, Int.toNat_of_nonneg hyear]
  rfl

/-- A second of the day is made up of its hours, minutes and seconds. -/
theorem secs_eq (t : Instant) :
    t.secs / secondsPerDay * secondsPerDay + ((t.secs % secondsPerDay).toNat / 3600 : Nat) * 3600
      + ((t.secs % secondsPerDay).toNat / 60 % 60 : Nat) * 60
      + ((t.secs % secondsPerDay).toNat % 60 : Nat) = t.secs := by
  simp only [secondsPerDay]
  omega

/-- The fields of a second denote it, and the fraction that they give. -/
theorem instant?_secondFields (h : t.Writable) (nanos : Nat) :
    (secondFields t nanos 0).instant? = some ⟨t.secs, t.truncated.nanos + nanos⟩ := by
  have hdate := Date.isValid_ofDay (t.secs / secondsPerDay)
  have hday := Date.toDay_ofDay (t.secs / secondsPerDay)
  have hsecs := secs_eq t
  obtain ⟨hfirst, hlast⟩ := secs_bounds h.year
  have hsecond : (t.secs % secondsPerDay).toNat < 86400 := by
    simp only [secondsPerDay]
    omega
  by_cases hleap : nanosPerSecond ≤ t.nanos
  · have hend : (t.secs % secondsPerDay).toNat % 60 = 59 := by
      have := h.clock.leap hleap
      simp only [secondsPerDay]
      omega
    have hnanos : t.truncated.nanos = nanosPerSecond := by
      have := h.clock.nanos_lt
      simp only [Instant.truncated, nanosPerSecond] at *
      omega
    rw [hend] at hsecs
    simp only [Fields.instant?, secondFields, hday, if_pos hleap, hend, if_true, hnanos,
      Int.sub_zero, hsecs]
    exact if_pos ⟨hdate, by omega, by omega, by omega, by omega, by omega, by omega, by omega⟩
  · have hsixty : (t.secs % secondsPerDay).toNat % 60 ≠ 60 := by omega
    have hnanos : t.truncated.nanos = 0 := by
      simp only [Instant.truncated, nanosPerSecond] at *
      omega
    simp only [Fields.instant?, secondFields, hday, if_neg hleap, Nat.add_zero, if_neg hsixty,
      hnanos, Nat.zero_add, Int.sub_zero, hsecs]
    exact if_pos ⟨hdate, by omega, by omega, by omega, by omega, by omega, by omega, by omega⟩

/-- Date and time denote their second whatever fraction follows, when the offset is none. -/
theorem instant?_secondText (h : t.Writable) {fraction zone : List Char} {nanos : Nat}
    (hfraction : optionalFraction? fraction = some (nanos, zone))
    (hzone : readOffset? (char? ':') zone = some (0, [])) :
    instant? (secondText t ++ fraction) = some ⟨t.secs, t.truncated.nanos + nanos⟩ := by
  rw [instant?, fields?_secondText h.year hfraction hzone (by decide), Option.bind_some,
    instant?_secondFields h]

theorem instant?_zuluSecondText (h : t.Writable) :
    instant? (zuluSecondText t) = some t.truncated := by
  have hnone : optionalFraction? ['Z'] = some (0, ['Z']) := rfl
  have hutc : readOffset? (char? ':') ['Z'] = some (0, []) := rfl
  rw [zuluSecondText, instant?_secondText h hnone hutc, Nat.add_zero, Instant.truncated]

/-- Of a fraction, the digits that it is written with are counted, and the mark after them is
left. -/
theorem readFraction?_padded {width n : Nat} {mark : Char} (hwidth : 0 < width ∧ width ≤ 9)
    (hn : n < Nat.pow 10 width) (hmark : isDigit mark = false) (rest : List Char) :
    readFraction? (padded width n ++ mark :: rest) =
      some (n * Nat.pow 10 (9 - width), mark :: rest) := by
  have hrun : (padded width n ++ mark :: rest).takeWhile isDigit = padded width n := by
    rw [List.takeWhile_append_of_pos fun _ => isDigit_of_mem_padded,
      List.takeWhile_cons_of_neg (by rw [hmark]; decide), List.append_nil]
  have hcounted : (padded width n).take 9 = padded width n :=
    List.take_of_length_le (by rw [length_padded]; exact hwidth.2)
  have hsome : padded width n ≠ [] := by
    rw [← List.length_pos_iff, length_padded]
    exact hwidth.1
  rw [readFraction?]
  simp only [hrun, if_neg hsome, hcounted, ofDigits?_padded hn, length_padded,
    Option.bind_eq_bind, Option.bind_some]
  rw [List.drop_left' (length_padded width n)]

/-- The groups of digits that are left out of a fraction are read as zeros. -/
theorem optionalFraction?_fractionText {nanos : Nat} {mark : Char} (hnanos : nanos < nanosPerSecond)
    (hpoint : mark ≠ '.') (hmark : isDigit mark = false) (rest : List Char) :
    optionalFraction? (fractionText nanos ++ mark :: rest) = some (nanos, mark :: rest) := by
  have hread (width n : Nat) (hwidth : 0 < width ∧ width ≤ 9) (hn : n < Nat.pow 10 width)
      (heq : n * Nat.pow 10 (9 - width) = nanos) :
      optionalFraction? ('.' :: padded width n ++ mark :: rest) = some (nanos, mark :: rest) := by
    rw [List.cons_append, optionalFraction?, readFraction?_padded hwidth hn hmark, heq]
  simp only [nanosPerSecond] at hnanos
  rw [fractionText]
  split
  next hzero => rw [hzero, List.nil_append, optionalFraction?.eq_2 _ (by simpa using hpoint)]
  split
  next hmillis =>
    refine hread 3 _ (by decide) ?_ ?_ <;> simp only [Nat.reducePow, Nat.reduceSub, Nat.pow_eq]
      <;> omega
  split
  next hmicros =>
    refine hread 6 _ (by decide) ?_ ?_ <;> simp only [Nat.reducePow, Nat.reduceSub, Nat.pow_eq]
      <;> omega
  next => exact hread 9 _ (by decide) hnanos (Nat.mul_one nanos)

/-- What is written of an instant denotes it again. -/
theorem instant?_text (h : t.Writable) : instant? (text t) = some t := by
  have hfraction : optionalFraction? (fractionText (t.nanos % nanosPerSecond) ++ "+00:00".toList) =
      some (t.nanos % nanosPerSecond, "+00:00".toList) :=
    optionalFraction?_fractionText (Nat.mod_lt _ (by decide)) (by decide) (by decide) _
  have hutc : readOffset? (char? ':') "+00:00".toList = some (0, []) := by decide
  have hnanos : t.truncated.nanos + t.nanos % nanosPerSecond = t.nanos :=
    Nat.div_add_mod' t.nanos nanosPerSecond
  rw [text, dateTimeText, List.append_assoc, instant?_secondText h hfraction hutc, hnanos]

/-- What every reader gives: a fraction below a second, and an offset in whole minutes. -/
structure Fields.Measured (f : Fields) : Prop where
  nanos_lt : f.nanos < nanosPerSecond
  offset_mod : f.offset % 60 = 0

theorem Fields.Measured.ofClock {f : Fields} (hf : f.Measured) (h : f.instant? = some t) :
    t.OfClock := by
  have hnanos := hf.nanos_lt
  have hoffset := hf.offset_mod
  simp only [Fields.instant?, Option.ite_none_right_eq_some, Option.some.injEq] at h
  obtain ⟨⟨-, -, -, hsecond, -⟩, rfl⟩ := h
  simp only [nanosPerSecond] at hnanos
  refine ⟨?_, ?_⟩ <;> simp only [nanosPerSecond, secondsPerDay]
  · split <;> omega
  · split <;> omega

theorem readFraction?_lt {cs rest : List Char} {n : Nat} (h : readFraction? cs = some (n, rest)) :
    n < nanosPerSecond := by
  simp only [readFraction?, Option.bind_eq_bind] at h
  split at h
  · cases h
  obtain ⟨m, hm, heq⟩ := Option.bind_eq_some_iff.mp h
  obtain ⟨rfl, -⟩ := Prod.mk.inj (Option.some.inj heq)
  have hlength : (List.take 9 (cs.takeWhile isDigit)).length ≤ 9 := List.length_take_le _ _
  calc m * Nat.pow 10 (9 - (List.take 9 (cs.takeWhile isDigit)).length)
      < Nat.pow 10 (List.take 9 (cs.takeWhile isDigit)).length
          * Nat.pow 10 (9 - (List.take 9 (cs.takeWhile isDigit)).length) :=
        Nat.mul_lt_mul_of_pos_right (ofDigits?_lt digitValue?_lt hm) (Nat.pow_pos (by decide))
    _ = Nat.pow 10 ((List.take 9 (cs.takeWhile isDigit)).length
          + (9 - (List.take 9 (cs.takeWhile isDigit)).length)) := (Nat.pow_add 10 _ _).symm
    _ = nanosPerSecond := by
        rw [Nat.add_sub_of_le hlength]
        rfl

theorem optionalFraction?_lt {cs rest : List Char} {n : Nat}
    (h : optionalFraction? cs = some (n, rest)) : n < nanosPerSecond := by
  rw [optionalFraction?.eq_def] at h
  split at h
  · exact readFraction?_lt h
  · obtain ⟨rfl, -⟩ := Prod.mk.inj (Option.some.inj h)
    decide

theorem readOffset?_mod {separator? : List Char → Option (List Char)} {cs rest : List Char}
    {offset : Int} (h : readOffset? separator? cs = some (offset, rest)) : offset % 60 = 0 := by
  rw [readOffset?.eq_def] at h
  split at h
  · cases h
  split at h
  · obtain ⟨rfl, -⟩ := Prod.mk.inj (Option.some.inj h)
    rfl
  · simp only [Option.bind_eq_bind] at h
    split at h
    case' isFalse => split at h
    case isFalse => cases h
    all_goals
      simp only [Option.bind_some, Option.bind_eq_some_iff, Option.ite_none_right_eq_some] at h
      obtain ⟨hours, -, _, -, minutes, -, -, h⟩ := h
      obtain ⟨rfl, -⟩ := Prod.mk.inj (Option.some.inj h)
      omega

theorem looseOffset?_mod {cs rest : List Char} {offset : Int}
    (h : looseOffset? cs = some (offset, rest)) : offset % 60 = 0 := by
  rw [looseOffset?] at h
  split at h
  · split at h
    · obtain ⟨rfl, -⟩ := Prod.mk.inj (Option.some.inj h)
      rfl
    · exact readOffset?_mod h
  · exact readOffset?_mod h

theorem measured_of_fields? {cs : List Char} {f : Fields} (h : fields? cs = some f) :
    f.Measured := by
  unfold fields? at h
  -- Eleven readers come before the one of the fraction.
  iterate 11 obtain ⟨_, -, h⟩ := Option.bind_eq_some_iff.mp h
  obtain ⟨_, hnanos, h⟩ := Option.bind_eq_some_iff.mp h
  obtain ⟨_, hoffset, h⟩ := Option.bind_eq_some_iff.mp h
  obtain ⟨-, h⟩ := Option.ite_none_right_eq_some.mp h
  obtain rfl := Option.some.inj h
  exact ⟨optionalFraction?_lt hnanos, readOffset?_mod hoffset⟩

theorem measured_of_looseFields? {cs : List Char} {f : Fields} (h : looseFields? cs = some f) :
    f.Measured := by
  unfold looseFields? at h
  -- Eleven readers come before the one of the fraction.
  iterate 11 obtain ⟨_, -, h⟩ := Option.bind_eq_some_iff.mp h
  obtain ⟨_, hnanos, h⟩ := Option.bind_eq_some_iff.mp h
  obtain ⟨_, hoffset, h⟩ := Option.bind_eq_some_iff.mp h
  obtain ⟨-, h⟩ := Option.ite_none_right_eq_some.mp h
  obtain rfl := Option.some.inj h
  exact ⟨optionalFraction?_lt hnanos, looseOffset?_mod hoffset⟩

theorem ofClock_of_instant? {cs : List Char} (h : instant? cs = some t) : t.OfClock := by
  obtain ⟨_, hfields, ht⟩ := Option.bind_eq_some_iff.mp h
  exact (measured_of_fields? hfields).ofClock ht

theorem ofClock_of_looseInstant? {cs : List Char} (h : looseInstant? cs = some t) :
    t.OfClock := by
  obtain ⟨_, hfields, ht⟩ := Option.bind_eq_some_iff.mp h
  exact (measured_of_looseFields? hfields).ofClock ht

end Timestamp
end PackageIndex
