import PackageIndex.Calendar
/-!
Every day number has a date of the calendar, and the date's number is the day's again; a later day
has a later date. A day is first told by its place in the eras, centuries, cycles of four years and
years that begin in March; months and days follow from its place in such a year alone.
-/
namespace PackageIndex

/-- A day by its place in the eras of four hundred years that begin in March. -/
structure MarchDay where
  era : Int
  century : Nat
  cycle : Nat
  yearOfCycle : Nat
  dayOfYear : Nat
  century_le : century ≤ 3
  cycle_le : cycle ≤ 24
  yearOfCycle_le : yearOfCycle ≤ 3
  dayOfYear_le : dayOfYear ≤ 365
  /-- A year's last day is a leap day: every fourth year has one, a century's last year only at
  the end of an era. -/
  leap : dayOfYear = 365 → yearOfCycle = 3 ∧ (cycle = 24 → century = 3)

namespace MarchDay

/-- The year that the day's March lies in. -/
def marchYear (m : MarchDay) : Int :=
  m.era * 400 + m.century * 100 + m.cycle * 4 + m.yearOfCycle

/-- The month, counting March as 0. -/
def month (m : MarchDay) : Nat := (5 * m.dayOfYear + 2) / 153

def number (m : MarchDay) : Int :=
  m.era * 146097 + m.century * 36524 + m.cycle * 1461 + m.yearOfCycle * 365 + m.dayOfYear - 719468

def date (m : MarchDay) : Date :=
  { year := if m.month < 10 then m.marchYear else m.marchYear + 1
    month := if m.month < 10 then m.month + 3 else m.month - 9
    day := m.dayOfYear - Date.daysBeforeMonth m.month + 1 }

/-- The place of a day, by its number. -/
def ofNumber (n : Int) : MarchDay :=
  let inEra := ((n + 719468) % 146097).toNat
  let century := min (inEra / 36524) 3
  let inCentury := inEra - century * 36524
  let cycle := min (inCentury / 1461) 24
  let inCycle := inCentury - cycle * 1461
  let yearOfCycle := min (inCycle / 365) 3
  { era := (n + 719468) / 146097
    century, cycle, yearOfCycle
    dayOfYear := inCycle - yearOfCycle * 365
    century_le := Nat.min_le_right _ _
    cycle_le := Nat.min_le_right _ _
    yearOfCycle_le := Nat.min_le_right _ _
    dayOfYear_le := by omega
    leap := by omega }

theorem ofDay_eq (n : Int) : Date.ofDay n = (ofNumber n).date := rfl

theorem number_ofNumber (n : Int) : (ofNumber n).number = n := by
  simp only [number, ofNumber]
  omega

variable (m : MarchDay)

theorem month_le : m.month ≤ 11 := by
  have := m.dayOfYear_le
  simp only [month]
  omega

theorem daysBeforeMonth_le : Date.daysBeforeMonth m.month ≤ m.dayOfYear := by
  simp only [Date.daysBeforeMonth, month]
  omega

theorem marchYear_div : m.marchYear / 400 = m.era := by
  have := m.century_le
  have := m.cycle_le
  have := m.yearOfCycle_le
  simp only [marchYear]
  omega

theorem marchYear_mod :
    m.marchYear % 400 = m.century * 100 + m.cycle * 4 + m.yearOfCycle := by
  have := m.century_le
  have := m.cycle_le
  have := m.yearOfCycle_le
  simp only [marchYear]
  omega

/-- The year of the date ends in February, so it is the March year or the one after. -/
theorem isLeapYear_succ (h : m.dayOfYear = 365) : Date.isLeapYear (m.marchYear + 1) = true := by
  obtain ⟨hyear, hcentury⟩ := m.leap h
  have := m.century_le
  have := m.cycle_le
  simp only [Date.isLeapYear, Bool.and_eq_true, Bool.or_eq_true, decide_eq_true_eq]
  simp only [marchYear, hyear]
  omega

theorem toDay_date : m.date.toDay = m.number := by
  have hmonth := m.month_le
  have hbefore := m.daysBeforeMonth_le
  have hdiv := m.marchYear_div
  have hmod := m.marchYear_mod
  have := m.century_le
  have := m.cycle_le
  have := m.yearOfCycle_le
  simp only [Date.toDay, date, number]
  by_cases hearly : m.month < 10
  · simp only [if_pos hearly, show ¬ m.month + 3 ≤ 2 by omega, if_false, hdiv, hmod,
      Nat.add_sub_cancel]
    omega
  · simp only [if_neg hearly, show m.month - 9 ≤ 2 by omega, if_true, Int.add_sub_cancel, hdiv,
      hmod, show m.month - 9 + 9 = m.month by omega]
    omega

/-- February starts with the day 337 of the March year. -/
theorem le_daysInFebruary :
    m.dayOfYear - 337 + 1 ≤ Date.daysInMonth (m.marchYear + 1) 2 := by
  have hday := m.dayOfYear_le
  simp only [Date.daysInMonth]
  by_cases hlast : m.dayOfYear = 365
  · rw [if_pos (m.isLeapYear_succ hlast)]
    omega
  · split <;> omega

/-- Each month of a March year but the last is as long in every year. -/
theorem daysBeforeMonth_succ_sub (month : Nat) (h : month < 11) (year : Int) :
    Date.daysBeforeMonth (month + 1) - Date.daysBeforeMonth month =
      Date.daysInMonth year (if month < 10 then month + 3 else month - 9) := by
  match month, h with
  | 0, _ | 1, _ | 2, _ | 3, _ | 4, _ | 5, _ | 6, _ | 7, _ | 8, _ | 9, _ | 10, _ => rfl

theorem isValid_date : m.date.IsValid := by
  refine ⟨by simp only [date]; omega, ?_⟩
  have hmonth := m.month_le
  have hbefore := m.daysBeforeMonth_le
  by_cases hlast : m.month = 11
  · rw [show m.date.month = 2 by simp only [date, hlast]; rfl,
      show m.date.day = m.dayOfYear - 337 + 1 by simp only [date, hlast]; rfl,
      show m.date.year = m.marchYear + 1 by simp only [date, hlast]; rfl]
    exact m.le_daysInFebruary
  · have hdays := daysBeforeMonth_succ_sub m.month (by omega) m.date.year
    simp only [date] at hdays ⊢
    rw [← hdays]
    simp only [Date.daysBeforeMonth, month] at *
    omega

/-- The days before a March year, but for the number of the epoch's day. -/
def daysBeforeYear (year : Int) : Int := year * 365 + year / 4 - year / 100 + year / 400

theorem number_eq : m.number = daysBeforeYear m.marchYear + m.dayOfYear - 719468 := by
  have := m.century_le
  have := m.cycle_le
  have := m.yearOfCycle_le
  simp only [number, daysBeforeYear, marchYear]
  omega

theorem daysBeforeYear_mono {year year' : Int} (h : year ≤ year') :
    daysBeforeYear year ≤ daysBeforeYear year' := by
  simp only [daysBeforeYear]
  omega

theorem daysBeforeYear_succ (year : Int) : daysBeforeYear (year + 1) =
    daysBeforeYear year + if Date.isLeapYear (year + 1) then 366 else 365 := by
  simp only [daysBeforeYear, Date.isLeapYear, Bool.and_eq_true, Bool.or_eq_true,
    decide_eq_true_eq]
  split <;> omega

/-- Every day of a March year lies before the first one of each later year. -/
theorem daysBeforeYear_add_lt {year : Int} (h : m.marchYear < year) :
    daysBeforeYear m.marchYear + m.dayOfYear < daysBeforeYear year := by
  have hday := m.dayOfYear_le
  have hnext := daysBeforeYear_succ m.marchYear
  have hlater := daysBeforeYear_mono (show m.marchYear + 1 ≤ year from h)
  by_cases hlast : m.dayOfYear = 365
  · rw [if_pos (m.isLeapYear_succ hlast)] at hnext
    omega
  · split at hnext <;> omega

theorem lt_of_number_lt {m m' : MarchDay} (h : m.number < m'.number) :
    m.marchYear < m'.marchYear ∨ m.marchYear = m'.marchYear ∧ m.dayOfYear < m'.dayOfYear := by
  rw [number_eq, number_eq] at h
  rcases Int.lt_trichotomy m.marchYear m'.marchYear with hlt | heq | hgt
  · exact .inl hlt
  · rw [heq] at h
    exact .inr ⟨heq, by omega⟩
  · have := m'.daysBeforeYear_add_lt hgt
    omega

end MarchDay

namespace Date

/-- A date comes before another one. -/
def Precedes (d e : Date) : Prop :=
  d.year < e.year ∨ d.year = e.year ∧ (d.month < e.month ∨ d.month = e.month ∧ d.day < e.day)

theorem toDay_ofDay (n : Int) : (ofDay n).toDay = n := by
  rw [MarchDay.ofDay_eq, MarchDay.toDay_date, MarchDay.number_ofNumber]

theorem isValid_ofDay (n : Int) : (ofDay n).IsValid := by
  rw [MarchDay.ofDay_eq]
  exact MarchDay.isValid_date _

theorem daysInMonth_le (year : Int) (month : Nat) : daysInMonth year month ≤ 31 := by
  simp only [daysInMonth]
  split <;> first | omega | (split <;> omega)

theorem month_ofDay_le (n : Int) : (ofDay n).month ≤ 12 := by
  have hmonth := (MarchDay.ofNumber n).month_le
  rw [MarchDay.ofDay_eq]
  simp only [MarchDay.date]
  split <;> omega

theorem day_ofDay_le (n : Int) : (ofDay n).day ≤ 31 :=
  Nat.le_trans (isValid_ofDay n).2 (daysInMonth_le _ _)

/-- A day lies in the era of its year, or in the one before. -/
theorem year_ofDay_bounds (n : Int) :
    ((ofDay n).year - 400) / 400 * 146097 ≤ n + 719468 ∧
      n + 719468 < ((ofDay n).year / 400 + 1) * 146097 := by
  have hdiv := (MarchDay.ofNumber n).marchYear_div
  have hera : (MarchDay.ofNumber n).era = (n + 719468) / 146097 := rfl
  rw [MarchDay.ofDay_eq]
  simp only [MarchDay.date]
  split <;> omega

theorem precedes_of_lt {n n' : Int} (h : n < n') : (ofDay n).Precedes (ofDay n') := by
  rw [← MarchDay.number_ofNumber n, ← MarchDay.number_ofNumber n'] at h
  rw [MarchDay.ofDay_eq, MarchDay.ofDay_eq]
  generalize MarchDay.ofNumber n = m at *
  generalize MarchDay.ofNumber n' = m' at *
  have hbefore := m.daysBeforeMonth_le
  have hmonth := m.month_le
  have hmonth' := m'.month_le
  rcases MarchDay.lt_of_number_lt h with hyear | ⟨hyear, hday⟩
  · simp only [Precedes, MarchDay.date]
    split <;> split <;> omega
  · have hle : m.month ≤ m'.month := by
      simp only [MarchDay.month]
      omega
    rcases Nat.lt_or_eq_of_le hle with hlt | heq
    · simp only [Precedes, MarchDay.date]
      split <;> split <;> omega
    · rw [heq] at hbefore
      refine .inr ⟨?_, .inr ⟨?_, ?_⟩⟩ <;> simp only [MarchDay.date, heq, hyear]
      omega

theorem year_ofDay_mono {n n' : Int} (h : n ≤ n') : (ofDay n).year ≤ (ofDay n').year := by
  rcases Int.lt_or_eq_of_le h with hlt | rfl
  · rcases precedes_of_lt hlt with hyear | ⟨hyear, -⟩
    · exact Int.le_of_lt hyear
    · exact Int.le_of_eq hyear
  · exact Int.le_refl _

end Date

end PackageIndex
