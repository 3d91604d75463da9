import Relmap.Calendar.Date

/-!
# Moments in time

A moment is kept as its date and time in UTC. The moments of a calendar are bounded so that each of
them has a date and time in every time zone.
-/

namespace Relmap

/-- The position of a time in the calendar, to the nanosecond. -/
def DateTime.nanosecondNumber (t : DateTime) : Int :=
  t.secondNumber * 1000000000 + t.clock.nanosecond

/-- The first moment. -/
def firstMoment : DateTime :=
  ⟨⟨-9999, 1, 2, by decide⟩, ⟨1, 59, 59, 0, by decide⟩⟩

/-- The last moment. -/
def lastMoment : DateTime :=
  ⟨⟨9999, 12, 30, by decide⟩, ⟨22, 0, 0, 999999999, by decide⟩⟩

/-- A time in UTC that is a moment. -/
def isMoment (utc : DateTime) : Bool :=
  firstMoment.nanosecondNumber ≤ utc.nanosecondNumber &&
    utc.nanosecondNumber ≤ lastMoment.nanosecondNumber

/-- A moment in time, by its date and time in UTC. -/
structure Timestamp where
  utc : DateTime
  inBounds : isMoment utc = true
deriving DecidableEq

namespace Timestamp

/-- The moment with the given date and time in UTC, if it is in bounds. -/
def ofUtc? (utc : DateTime) : Option Timestamp :=
  if h : isMoment utc = true then some ⟨utc, h⟩ else none

/-- The greatest difference from UTC in seconds: 25:59:59. -/
def greatestOffset : Nat := 93599

/-- The moment at which clocks that are ahead of UTC by `offset` seconds show `shown`. -/
def ofOffset? (shown : DateTime) (offset : Int) : Option Timestamp :=
  if offset.natAbs ≤ greatestOffset then (shown.addSeconds? (-offset)).bind ofUtc? else none

/-- The date and time in UTC, with the letter Z. -/
def text (t : Timestamp) : String := t.utc.text ++ "Z"

end Timestamp
end Relmap
