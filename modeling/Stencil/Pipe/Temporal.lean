import Stencil.Calendar.Elapsed
import Stencil.Calendar.Format
import Stencil.Calendar.Pattern
import Stencil.Calendar.Reader
import Stencil.Pipe.Basic

/-!
Pipes over dates: moments, dates and the texts that mean one on the present day.
-/

namespace Stencil

open Calendar

def Value.moment? (today : Date) (v : Value) : Option Moment :=
  match v.unwrap with
  | .moment m => some m
  | .date d => some (.midnight d)
  | .text s => if Text.trim s.toList = [] then none else readMoment? today s
  | _ => none

/-- Whole days from the date of a value to the present one: both days are taken from their beginning, in the zone of the
value where it has one. -/
def Value.daysUntil? (now : Moment) (v : Value) : Result (Option Int) :=
  match v.moment? now.date with
  | some m => do return some ((← (now.inZoneOf m).startOfDay.since m.startOfDay) / dayLength)
  | none => .ok none

namespace Pipe

def defaultPattern : String := "yyyy-MM-dd"

def formatDate (today : Date) : Pipe := fun args v =>
  match v.moment? today with
  | some m => do
    let pattern ← if args.isEmpty then pure defaultPattern else rejoin args
    return .text (← m.format (formatOfPattern pattern))
  | none => .ok .absent

def daysAfter (now : Moment) : Pipe := fun _ v => do
  match ← v.daysUntil? now with
  | some days => return .int days
  | none => return .absent

/-- How far a date that many days in the past lies from today. -/
def describeDays (days : Int) : String :=
  if days = 0 then "today"
  else if days = -1 then "tomorrow"
  else if days = 1 then "yesterday"
  else if days < 0 then toString days.natAbs ++ " days from now"
  else toString days.natAbs ++ " days ago"

def daysFromNow (now : Moment) : Pipe := fun _ v => do
  match ← v.daysUntil? now with
  | some days => return .text (describeDays days)
  | none => return .absent

end Pipe

end Stencil
