import Till.Fault
import Till.Instant.Calendar

/-!
# Instants

A clock counts nanoseconds from 1970-01-01T00:00:00Z, and every minute has room for a leap second
after its last one.  So the ticks of a clock come in minutes of sixty-one seconds, and their order
is the order of instants.  Only the instants of the years -262143 to 262142 can be represented,
and a span is a whole number of nanoseconds.

* `Instant.elapsed` and `Instant.ofElapsed` : the nanoseconds of minutes of sixty seconds, in which
  a leap second coincides with the second after it;
* `Instant.after` : the instant a span later, an overflow if it cannot be represented.  A leap
  second is left only by a span of a second or more, or by one that leads past its end;
* `Instant.since` : the span between two instants, which counts the leap second that one of them
  lies in;
* `Instant.spanOfSeconds` : a span given in seconds, an overflow beyond
  9223372036854775 seconds.
-/

namespace Till

/-- A point in time. -/
structure Instant where
  /-- Nanoseconds from 1970-01-01T00:00:00Z, if every minute had sixty-one seconds. -/
  tick : Int
  deriving DecidableEq, Repr

namespace Instant

instance : LE Instant := ⟨fun a b => a.tick ≤ b.tick⟩

instance : LT Instant := ⟨fun a b => a.tick < b.tick⟩

instance (a b : Instant) : Decidable (a ≤ b) := inferInstanceAs (Decidable (a.tick ≤ b.tick))

instance (a b : Instant) : Decidable (a < b) := inferInstanceAs (Decidable (a.tick < b.tick))

/-! ### Minutes and days -/

/-- Nanoseconds in a second. -/
def perSecond : Int := 1000000000

/-- Nanoseconds in a minute without a leap second. -/
def perMinute : Int := 60000000000

/-- Ticks in a minute, which has room for a leap second. -/
def ticksPerMinute : Int := 61000000000

/-- Minutes in a day. -/
def minutesPerDay : Int := 1440

/-- The minute of an instant, counted from 1970-01-01T00:00Z. -/
def minute (t : Instant) : Int := t.tick / ticksPerMinute

/-- The nanoseconds since the beginning of the minute. -/
def within (t : Instant) : Int := t.tick % ticksPerMinute

/-- The minute of the day. -/
def minuteOfDay (t : Instant) : Int := t.minute % minutesPerDay

/-- The instant so many nanoseconds after the beginning of a minute. -/
def ofMinute (minute within : Int) : Instant := ⟨minute * ticksPerMinute + within⟩

/-- Whether an instant lies in a leap second. -/
def isLeap (t : Instant) : Bool := decide (perMinute ≤ t.within)

/-- The date of an instant. -/
def date (t : Instant) : Calendar.Date := Calendar.dateOf (t.minute / minutesPerDay)

/-- The first instant of the year. -/
def startOfYear (year : Int) : Instant := ofMinute (Calendar.yearStart year * minutesPerDay) 0

/-- The instants that can be represented. -/
def IsRepresentable (t : Instant) : Prop := startOfYear (-262143) ≤ t ∧ t < startOfYear 262143

instance (t : Instant) : Decidable (IsRepresentable t) := inferInstanceAs (Decidable (_ ∧ _))

/-- Whether the instant lies in the years 0 to 9999, which are written with four digits. -/
def hasPlainYear (t : Instant) : Bool :=
  decide (startOfYear 0 ≤ t) && decide (t < startOfYear 10000)

/-! ### Spans -/

/-- The greatest number of seconds in a span. -/
def greatestSeconds : Int := 9223372036854775

/-- A span of so many seconds, in nanoseconds. -/
def spanOfSeconds {ε : Type} (seconds : Int) : Outcome ε Int :=
  if -greatestSeconds ≤ seconds ∧ seconds ≤ greatestSeconds then .ok (seconds * perSecond)
  else .error .overflow

/-- The nanoseconds from 1970-01-01T00:00:00Z, with sixty seconds to a minute. -/
def elapsed (t : Instant) : Int := t.minute * perMinute + t.within

/-- The instant so many nanoseconds from 1970-01-01T00:00:00Z; it lies in no leap second. -/
def ofElapsed (nanos : Int) : Instant := ofMinute (nanos / perMinute) (nanos % perMinute)

/-- The instant a span later, be it represented or not. -/
def shift (t : Instant) (span : Int) : Instant :=
  if t.isLeap ∧ Int.tdiv span perSecond = 0 ∧ t.within + span < ticksPerMinute then
    ofMinute t.minute (t.within + span)
  else if t.isLeap ∧ 0 < span then ofElapsed (t.elapsed - perSecond + span)
  else ofElapsed (t.elapsed + span)

/-- The instant a span of nanoseconds later. -/
def after {ε : Type} (t : Instant) (span : Int) : Outcome ε Instant :=
  if IsRepresentable (t.shift span) then .ok (t.shift span) else .error .overflow

/-- The span between two instants, in nanoseconds.  The leap second of one of them counts when its
minute of the day comes first. -/
def since (t earlier : Instant) : Int :=
  let leaps :=
    if earlier.isLeap ∧ earlier.minuteOfDay < t.minuteOfDay then perSecond
    else if t.isLeap ∧ t.minuteOfDay < earlier.minuteOfDay then -perSecond
    else 0
  t.elapsed - earlier.elapsed + leaps

end Instant

end Till
