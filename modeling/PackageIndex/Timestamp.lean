import PackageIndex.Calendar
import PackageIndex.Instant
import PackageIndex.Text.Blank
import PackageIndex.Text.Digits
/-!
Timestamps as text: date, the letter T, time of day, a fraction of no, three, six or
nine digits, and an offset. Years from 0 to 9999 have four digits, others a sign and at
least four. A leap second is written as the sixtieth second of its minute.
-/
namespace PackageIndex.Timestamp

open PackageIndex.Text

/-- What a timestamp says before it is checked; the offset is in seconds east. -/
structure Fields where
  year : Int
  month : Nat
  day : Nat
  hour : Nat
  minute : Nat
  second : Nat
  nanos : Nat
  offset : Int

def yearText (year : Int) : List Char :=
  if 0 ≤ year ∧ year ≤ 9999 then padded 4 year.toNat
  else (if year < 0 then '-' else '+') ::
    (if year.natAbs ≤ 9999 then padded 4 year.natAbs else digits 10 year.natAbs)

def dateText (day : Int) : List Char :=
  let d := Date.ofDay day
  yearText d.year ++ '-' :: (padded 2 d.month ++ '-' :: padded 2 d.day)

/-- The time of a second of the day, its leap second added when `leap`. -/
def timeText (second : Nat) (leap : Bool) : List Char :=
  padded 2 (second / 3600) ++ ':' :: (padded 2 (second / 60 % 60) ++ ':' ::
    padded 2 (second % 60 + if leap then 1 else 0))

/-- The shortest of no, three, six and nine digits that keeps every nanosecond. -/
def fractionText (nanos : Nat) : List Char :=
  if nanos = 0 then []
  else if nanos % 1000000 = 0 then '.' :: padded 3 (nanos / 1000000)
  else if nanos % 1000 = 0 then '.' :: padded 6 (nanos / 1000)
  else '.' :: padded 9 nanos

/-- Date and time to the whole second. -/
def secondText (t : Instant) : List Char :=
  dateText (t.secs / secondsPerDay) ++
    'T' :: timeText (t.secs % secondsPerDay).toNat (nanosPerSecond ≤ t.nanos)

def dateTimeText (t : Instant) : List Char :=
  secondText t ++ fractionText (t.nanos % nanosPerSecond)

/-- Date and time to the whole second with a blank in between, and without an offset. -/
def plainText (t : Instant) : List Char :=
  dateText (t.secs / secondsPerDay) ++ ' ' :: timeText (t.secs % secondsPerDay).toNat false

/-- The timestamp with the offset written as digits. -/
def text (t : Instant) : List Char := dateTimeText t ++ "+00:00".toList

/-- The timestamp with the offset written as a letter. -/
def zuluText (t : Instant) : List Char := dateTimeText t ++ ['Z']

/-- The timestamp of the whole second, with the offset written as a letter. -/
def zuluSecondText (t : Instant) : List Char := secondText t ++ ['Z']

/-- The instant that the fields denote, when they are a date and a time of day and the
calendar covers it. -/
def Fields.instant? (f : Fields) : Option Instant :=
  let date : Date := { year := f.year, month := f.month, day := f.day }
  let leap := f.second = 60
  let second := if leap then 59 else f.second
  let nanos := if leap then nanosPerSecond + f.nanos else f.nanos
  let local' := date.toDay * secondsPerDay + f.hour * 3600 + f.minute * 60 + second
  let secs := local' - f.offset
  if date.IsValid ∧ f.hour < 24 ∧ f.minute < 60 ∧ f.second ≤ 60
      ∧ Instant.earliest.secs ≤ local' ∧ local' ≤ Instant.latest.secs
      ∧ Instant.earliest.secs ≤ secs ∧ secs ≤ Instant.latest.secs then
    some ⟨secs, nanos⟩
  else none

/-- Reads a fraction after its point: up to nine digits count, more are skipped. -/
def readFraction? (cs : List Char) : Option (Nat × List Char) := do
  let run := cs.takeWhile isDigit
  if run = [] then none else
    let counted := run.take 9
    let n ← ofDigits? 10 digitValue? counted
    some (n * Nat.pow 10 (9 - counted.length), cs.drop run.length)

def optionalFraction? : List Char → Option (Nat × List Char)
  | '.' :: rest => readFraction? rest
  | cs => some (0, cs)

/-- Reads an offset: the letter Z, or a sign, two digits of hours, a separator and two
digits of minutes. -/
def readOffset? (separator? : List Char → Option (List Char)) :
    List Char → Option (Int × List Char)
  | [] => none
  | c :: rest =>
    if c = 'Z' ∨ c = 'z' then some (0, rest) else do
      let sign : Int ← if c = '+' then some 1 else if c = '-' ∨ c = '\u2212' then some (-1) else none
      let (hours, rest) ← takeDigits? 2 0 rest
      let rest ← separator? rest
      let (minutes, rest) ← takeDigits? 2 0 rest
      if minutes < 60 then some (sign * (hours * 3600 + minutes * 60), rest) else none

def char? (c : Char) : List Char → Option (List Char)
  | d :: rest => if d = c then some rest else none
  | [] => none

/-- The mark between date and time: T in either case, or a space. -/
def mark? : List Char → Option (List Char)
  | c :: rest => if c = 'T' ∨ c = 't' ∨ c = ' ' then some rest else none
  | [] => none

/-- The largest offset of a timestamp, in seconds. -/
def maxOffset : Int := 86340

/-- The fields of a text in which every component has its full width. -/
def fields? (cs : List Char) : Option Fields := do
  let (year, cs) ← takeDigits? 4 0 cs
  let cs ← char? '-' cs
  let (month, cs) ← takeDigits? 2 0 cs
  let cs ← char? '-' cs
  let (day, cs) ← takeDigits? 2 0 cs
  let cs ← mark? cs
  let (hour, cs) ← takeDigits? 2 0 cs
  let cs ← char? ':' cs
  let (minute, cs) ← takeDigits? 2 0 cs
  let cs ← char? ':' cs
  let (second, cs) ← takeDigits? 2 0 cs
  let (nanos, cs) ← optionalFraction? cs
  let (offset, cs) ← readOffset? (char? ':') cs
  if cs = [] ∧ -maxOffset ≤ offset ∧ offset ≤ maxOffset then
    some { year, month, day, hour, minute, second, nanos, offset }
  else none

/-- The instant of a timestamp. -/
def instant? (cs : List Char) : Option Instant := (fields? cs).bind Fields.instant?

/-- Reads a year, which may have a sign and then any number of digits. -/
def looseYear? (cs : List Char) : Option (Int × List Char) :=
  match trimStart cs with
  | '-' :: rest => (takeUpToDigits? rest.length rest).map fun (n, rest) => (-n, rest)
  | '+' :: rest => (takeUpToDigits? rest.length rest).map fun (n, rest) => (n, rest)
  | rest => (takeUpToDigits? 4 rest).map fun (n, rest) => (n, rest)

/-- Reads one or two digits, with blanks before them. -/
def looseNumber? (cs : List Char) : Option (Nat × List Char) := takeUpToDigits? 2 (trimStart cs)

/-- Reads a mark with blanks before it. -/
def looseChar? (c : Char) (cs : List Char) : Option (List Char) := char? c (trimStart cs)

/-- A separator of hours and minutes that may be missing. -/
def looseSeparator? (cs : List Char) : Option (List Char) :=
  some (cs.dropWhile fun c => c = ':' || isBlank c)

/-- Reads a loose offset, which may also be the letters UTC. -/
def looseOffset? (cs : List Char) : Option (Int × List Char) :=
  match trimStart cs with
  | u :: t :: c :: rest =>
    if u.toUpper = 'U' ∧ t.toUpper = 'T' ∧ c.toUpper = 'C' then some (0, rest)
    else readOffset? looseSeparator? (u :: t :: c :: rest)
  | rest => readOffset? looseSeparator? rest

/-- The fields of a text that may have blanks between its components and leave out
leading zeros. -/
def looseFields? (cs : List Char) : Option Fields := do
  let (year, cs) ← looseYear? cs
  let cs ← looseChar? '-' cs
  let (month, cs) ← looseNumber? cs
  let cs ← looseChar? '-' cs
  let (day, cs) ← looseNumber? cs
  let cs ← mark? cs
  let (hour, cs) ← looseNumber? cs
  let cs ← looseChar? ':' cs
  let (minute, cs) ← looseNumber? cs
  let cs ← looseChar? ':' cs
  let (second, cs) ← looseNumber? cs
  let (nanos, cs) ← optionalFraction? cs
  let (offset, cs) ← looseOffset? cs
  if trimStart cs = [] ∧ -86400 < offset ∧ offset < 86400 then
    some { year, month, day, hour, minute, second, nanos, offset }
  else none

/-- The instant of a loosely written timestamp. -/
def looseInstant? (cs : List Char) : Option Instant := (looseFields? cs).bind Fields.instant?

end PackageIndex.Timestamp
