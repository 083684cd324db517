import Stencil.Calendar.Moment
import Stencil.Calendar.Reading

/-!
Reading a date, a time of day or both from free text. The lexemes are passed from left to right, and what they leave
open is filled in from the present day. A lexeme that has no meaning where it stands spoils the whole text.
-/

namespace Stencil.Calendar

namespace Reading

/-- The latest of the lexemes that were passed comes first in `before`. -/
def readAll? (present : Nat) (r : Reading) (before : List Lexeme) : List Lexeme → Option Reading
  | [] => some r
  | t :: after =>
    match r.take? present before t after with
    | none => none
    | some (r, taken) => r.readAll? present ((after.take taken).reverse ++ t :: before) (after.drop taken)
termination_by after => after.length
decreasing_by
  simp only [List.length_drop, List.length_cons]
  omega

def maxDays : Int := 999999999

/-- A zone needs an offset: a name alone says nothing, save where it means Greenwich. -/
def zoneOf? (r : Reading) : Option (Option Zone) :=
  if (r.zoneName.map Lexeme.isGreenwich).getD false || r.offset = some 0 then some (some (Zone.fixed 0))
  else
    match r.offset with
    | none => some none
    | some offset =>
      if -maxDays ≤ offset / 86400 ∧ offset / 86400 ≤ maxDays then
        some (some ⟨r.zoneName.map String.ofList, offset * 1000000⟩)
      else none

def upcoming (d : Date) (weekday : Nat) : Date := d.advance ((7 + weekday - d.weekday) % 7)

/-- The moment that a reading means: what it leaves open is filled in from the present day, its day from the last of the
month at most. -/
def moment? (r : Reading) (today : Date) : Option Moment := do
  let parts ← r.numbers.parts?
  if r.isEmpty then none
  else
    let zone ← r.zoneOf?
    let year := match parts.year with
      | some year => if r.numbers.century then year else closestYear today.year year
      | none => today.year
    let month := parts.month.getD today.month
    let day := parts.day.getD (min today.day (daysInMonth year month))
    let clock := fun (d : Date) =>
      Moment.mk d (r.hour.getD 0) (r.minute.getD 0) (r.second.getD 0) (r.microsecond.getD 0) zone
    let m := clock ⟨year, month, day⟩
    if m.isValid then
      let m := match r.weekday, parts.day with
        | some weekday, none => clock (upcoming m.date weekday)
        | _, _ => m
      if m.isValid then return m else none
    else none

end Reading

def readMoment? (today : Date) (text : String) : Option Moment := do
  (← Reading.start.readAll? today.year [] (lexemes text)).moment? today

end Stencil.Calendar
