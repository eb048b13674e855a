/-!
Days of the proleptic Gregorian calendar, counted from the Unix epoch. Years begin in
March while counting, so that the leap day is the last day of its year and every
division is exact.
-/
namespace PackageIndex

structure Date where
  year : Int
  month : Nat
  day : Nat
  deriving DecidableEq

namespace Date

def isLeapYear (year : Int) : Bool :=
  year % 4 = 0 && (year % 100 ≠ 0 || year % 400 = 0)

def daysInMonth (year : Int) : Nat → Nat
  | 2 => if isLeapYear year then 29 else 28
  | 4 | 6 | 9 | 11 => 30
  | 1 | 3 | 5 | 7 | 8 | 10 | 12 => 31
  | _ => 0

def IsValid (d : Date) : Prop := 1 ≤ d.day ∧ d.day ≤ daysInMonth d.year d.month

instance (d : Date) : Decidable d.IsValid := inferInstanceAs (Decidable (_ ∧ _))

/-- Days before a month of a year that begins in March, counting March as 0. -/
def daysBeforeMonth (m : Nat) : Nat := (153 * m + 2) / 5

/-- The day's number; the epoch is day 0. -/
def toDay (d : Date) : Int :=
  let early := d.month ≤ 2
  let year := if early then d.year - 1 else d.year
  let month := if early then d.month + 9 else d.month - 3
  let inEra := year % 400
  year / 400 * 146097 + inEra * 365 + inEra / 4 - inEra / 100
    + daysBeforeMonth month + d.day - 1 - 719468

/-- The date of a day's number. -/
def ofDay (n : Int) : Date :=
  let shifted := n + 719468
  let inEra := (shifted % 146097).toNat
  let century := min (inEra / 36524) 3
  let inCentury := inEra - century * 36524
  let cycle := min (inCentury / 1461) 24
  let inCycle := inCentury - cycle * 1461
  let inCycleYear := min (inCycle / 365) 3
  let dayOfYear := inCycle - inCycleYear * 365
  let month := (5 * dayOfYear + 2) / 153
  let year := shifted / 146097 * 400 + century * 100 + cycle * 4 + inCycleYear
  { year := if month < 10 then year else year + 1
    month := if month < 10 then month + 3 else month - 9
    day := dayOfYear - daysBeforeMonth month + 1 }

end Date

end PackageIndex
