import Stencil.Calendar.Moment
import Stencil.Error

/-!
The time from one moment to another. Moments in one zone, or in none, are compared by their wall clocks, other ones by
the time in Greenwich.
-/

namespace Stencil.Calendar

/-- Microseconds. -/
def dayLength : Nat := 86400000000

namespace Moment

/-- A distance of a day or more from Greenwich is refused. -/
def offset (m : Moment) : Result (Option Int) :=
  match m.zone with
  | none => .ok none
  | some z => if z.offset.natAbs < dayLength then .ok (some z.offset) else .error (.refused .offsetTooLarge)

/-- Microseconds since the day began. -/
def sinceMidnight (m : Moment) : Nat := ((m.hour * 60 + m.minute) * 60 + m.second) * 1000000 + m.microsecond

/-- Microseconds by which the wall clock is ahead of another one. -/
def ahead (m other : Moment) : Int :=
  ((m.date.dayNumber : Int) - other.date.dayNumber) * dayLength + ((m.sinceMidnight : Int) - other.sinceMidnight)

/-- Microseconds from the other moment to this one. -/
def since (m other : Moment) : Result Int :=
  if m.zone = other.zone then .ok (m.ahead other)
  else do
    match ← m.offset, ← other.offset with
    | some here, some there => return m.ahead other - (here - there)
    | _, _ => .error .wrongType

def startOfDay (m : Moment) : Moment := { m with hour := 0, minute := 0, second := 0, microsecond := 0 }

/-- The same wall clock in the zone of another moment, where that has one. -/
def inZoneOf (m other : Moment) : Moment :=
  match other.zone with
  | some z => { m with zone := some z }
  | none => m

end Moment

end Stencil.Calendar
