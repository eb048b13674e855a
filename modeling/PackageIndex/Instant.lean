/-!
Points in time and lengths of time. An instant is a count of whole seconds from the
Unix epoch, rounded towards the past, and the nanoseconds after it; a leap second
stays in the second before it and has a nanosecond part from 1000000000 up. Instants
lie between two bounds of the calendar, and moving one past a bound stops there.
-/
namespace PackageIndex

structure Instant where
  secs : Int
  nanos : Nat
  deriving DecidableEq

/-- A length of time, in nanoseconds. -/
structure Span where
  nanos : Nat
  deriving DecidableEq

def nanosPerSecond : Nat := 1000000000

def secondsPerDay : Nat := 86400

namespace Span

def zero : Span := ⟨0⟩

def ofSeconds (n : Nat) : Span := ⟨n * nanosPerSecond⟩

def ofMillis (n : Nat) : Span := ⟨n * 1000000⟩

def ofDays (n : Nat) : Span := ofSeconds (n * secondsPerDay)

/-- The whole seconds of a span. -/
def secs (s : Span) : Nat := s.nanos / nanosPerSecond

/-- What a span has beyond its whole seconds. -/
def subsec (s : Span) : Nat := s.nanos % nanosPerSecond

/-- The longest delay that can be added to an instant. -/
def longestDelay : Span := ofMillis 0x7fffffffffffffff

instance : LE Span := ⟨fun a b => a.nanos ≤ b.nanos⟩

instance : LT Span := ⟨fun a b => a.nanos < b.nanos⟩

instance (a b : Span) : Decidable (a ≤ b) := inferInstanceAs (Decidable (a.nanos ≤ b.nanos))

instance (a b : Span) : Decidable (a < b) := inferInstanceAs (Decidable (a.nanos < b.nanos))

instance : Min Span := ⟨fun a b => if a ≤ b then a else b⟩

instance : Max Span := ⟨fun a b => if a ≤ b then b else a⟩

/-- Division by a positive number. The whole seconds and what is beyond them are divided
apart, each rounded down to whole nanoseconds. -/
def divide (s : Span) (d : Nat) : Span :=
  ⟨s.secs / d * nanosPerSecond + s.secs % d * nanosPerSecond / d + s.subsec / d⟩

end Span

namespace Instant

def epoch : Instant := ⟨0, 0⟩

/-- The first second of the calendar's first year. -/
def earliest : Instant := ⟨-8334601228800, 0⟩

/-- The last nanosecond of the calendar's last year. -/
def latest : Instant := ⟨8210266876799, 999999999⟩

instance : LE Instant :=
  ⟨fun a b => a.secs < b.secs ∨ a.secs = b.secs ∧ a.nanos ≤ b.nanos⟩

instance : LT Instant :=
  ⟨fun a b => a.secs < b.secs ∨ a.secs = b.secs ∧ a.nanos < b.nanos⟩

instance (a b : Instant) : Decidable (a ≤ b) :=
  inferInstanceAs (Decidable (a.secs < b.secs ∨ a.secs = b.secs ∧ a.nanos ≤ b.nanos))

instance (a b : Instant) : Decidable (a < b) :=
  inferInstanceAs (Decidable (a.secs < b.secs ∨ a.secs = b.secs ∧ a.nanos < b.nanos))

instance : Max Instant := ⟨fun a b => if a ≤ b then b else a⟩

theorem le_def {a b : Instant} :
    a ≤ b ↔ a.secs < b.secs ∨ a.secs = b.secs ∧ a.nanos ≤ b.nanos := Iff.rfl

theorem lt_def {a b : Instant} :
    a < b ↔ a.secs < b.secs ∨ a.secs = b.secs ∧ a.nanos < b.nanos := Iff.rfl

/-- Nanoseconds from the epoch. -/
def toNanos (t : Instant) : Int := t.secs * nanosPerSecond + t.nanos

/-- The instant so many nanoseconds from the epoch; never a leap second. -/
def ofNanos (n : Int) : Instant := ⟨n / nanosPerSecond, (n % nanosPerSecond).toNat⟩

/-- The calendar covers the instant. -/
def Representable (t : Instant) : Prop := earliest ≤ t ∧ t ≤ latest

instance (t : Instant) : Decidable t.Representable :=
  inferInstanceAs (Decidable (_ ∧ _))

/-- The instant a span later on a calendar without an end. What does not stay within a leap
second counts from the second that the leap second prolongs. -/
def plus (t : Instant) (s : Span) : Instant :=
  if t.nanos < nanosPerSecond then ofNanos (t.toNanos + s.nanos)
  else if t.nanos + s.nanos < 2 * nanosPerSecond then { t with nanos := t.nanos + s.nanos }
  else ofNanos (t.toNanos - nanosPerSecond + s.nanos)

/-- The instant a span earlier on a calendar without a start; it may still lie within the
same leap second. -/
def minus (t : Instant) (s : Span) : Instant :=
  if nanosPerSecond + s.nanos ≤ t.nanos then { t with nanos := t.nanos - s.nanos }
  else ofNanos (t.toNanos - s.nanos)

/-- The instant a span later, when the calendar reaches so far. -/
def after? (t : Instant) (s : Span) : Option Instant :=
  if (t.plus s).secs ≤ latest.secs then some (t.plus s) else none

/-- The instant a span earlier, when the calendar reaches so far. -/
def before? (t : Instant) (s : Span) : Option Instant :=
  if earliest.secs ≤ (t.minus s).secs then some (t.minus s) else none

/-- The instant a span later, stopping at the calendar's end. -/
def after (t : Instant) (s : Span) : Instant := (t.after? s).getD latest

/-- The instant a span earlier, stopping at the calendar's start. -/
def before (t : Instant) (s : Span) : Instant := (t.before? s).getD earliest

/-- Nanoseconds from another instant to this one. A leap second of the one with the earlier time of
day is counted as a second of its own. -/
def since (t s : Instant) : Int :=
  let timeOfDay (t : Instant) : Int := t.secs % secondsPerDay
  let leaps : Int :=
    if timeOfDay s < timeOfDay t ∧ nanosPerSecond ≤ s.nanos then 1
    else if timeOfDay t < timeOfDay s ∧ nanosPerSecond ≤ t.nanos then -1
    else 0
  t.toNanos - s.toNanos + leaps * nanosPerSecond

/-- The whole second that an instant lies in. -/
def wholeSecond (t : Instant) : Instant := ⟨t.secs, 0⟩

/-- Seconds that the calendar does not cover stand for the epoch. -/
def ofUnix (secs : Int) : Instant :=
  if earliest.secs ≤ secs ∧ secs ≤ latest.secs then ⟨secs, 0⟩ else epoch

end Instant

end PackageIndex
