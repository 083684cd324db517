/-!
Dates of the Gregorian calendar, extended back to year 1, and their day numbers.
-/

namespace Stencil.Calendar

structure Date where
  year : Nat
  month : Nat
  day : Nat
deriving DecidableEq

def isLeap (year : Nat) : Bool := year % 4 = 0 && (year % 100 ≠ 0 || year % 400 = 0)

def daysInMonth (year month : Nat) : Nat :=
  if month = 2 then if isLeap year then 29 else 28
  else if month = 4 ∨ month = 6 ∨ month = 9 ∨ month = 11 then 30
  else 31

def daysBeforeYear (year : Nat) : Nat :=
  let y := year - 1
  365 * y + y / 4 - y / 100 + y / 400

def daysBeforeMonth (year : Nat) : Nat → Nat
  | 0 => 0
  | 1 => 0
  | month + 1 => daysBeforeMonth year month + daysInMonth year month

namespace Date

def isValid (d : Date) : Bool :=
  1 ≤ d.year && d.year ≤ 9999 && 1 ≤ d.month && d.month ≤ 12 && 1 ≤ d.day && d.day ≤ daysInMonth d.year d.month

def ordinalInYear (d : Date) : Nat := daysBeforeMonth d.year d.month + d.day

/-- The first day of year 1 has number 1. -/
def dayNumber (d : Date) : Nat := daysBeforeYear d.year + d.ordinalInYear

/-- Monday is 0. -/
def weekday (d : Date) : Nat := (d.dayNumber + 6) % 7

def next (d : Date) : Date :=
  if d.day < daysInMonth d.year d.month then { d with day := d.day + 1 }
  else if d.month < 12 then ⟨d.year, d.month + 1, 1⟩
  else ⟨d.year + 1, 1, 1⟩

def advance (d : Date) : Nat → Date
  | 0 => d
  | n + 1 => (d.next).advance n

end Date

end Stencil.Calendar
