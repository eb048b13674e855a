import PackageIndex.Instant
/-!
When a job may run again. A job with a zero interval is disabled; any other is due
before its first attempt, and afterwards strictly later than one interval past the
last one.
-/
namespace PackageIndex

structure Cadence where
  interval : Span
  nextEligible : Option Instant := none
  deriving DecidableEq

namespace Cadence

def isEnabled (c : Cadence) : Bool := c.interval ≠ Span.zero

def isDue (c : Cadence) (now : Instant) : Bool :=
  c.isEnabled && match c.nextEligible with
    | none => true
    | some next => decide (next < now)

/-- Moves the next eligible time one interval past an attempt; an interval beyond the longest
delay counts as that. -/
def advance (c : Cadence) (attemptedAt : Instant) : Cadence :=
  { c with nextEligible := some (attemptedAt.after (min c.interval Span.longestDelay)) }

/-- No control loop sleeps longer than a minute. -/
def maxTick : Span := Span.ofSeconds 60

/-- The least positive interval, at most `maxTick`. -/
def tickPeriod (intervals : List Span) : Span :=
  (intervals.filter (· ≠ Span.zero)).foldl min maxTick

end Cadence

end PackageIndex
