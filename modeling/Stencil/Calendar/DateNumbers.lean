import Stencil.Calendar.Date
import Stencil.Text.Digit

/-!
The numbers of a date before it is known which is the year, the month and the day. A month that was named and a year
that was written with its century are known from the start; the rest goes by size, and the month comes before the day.
-/

namespace Stencil.Calendar

structure DateNumbers where
  /-- In the order in which they were read. -/
  numbers : List Nat
  yearAt : Option Nat
  monthAt : Option Nat
  /-- Whether a number was written with a century. -/
  century : Bool

structure DateParts where
  year : Option Nat
  month : Option Nat
  day : Option Nat

namespace DateNumbers

def start : DateNumbers := ⟨[], none, none, false⟩

def add (d : DateNumbers) (n : Nat) : DateNumbers := { d with numbers := d.numbers ++ [n] }

/-- There is one year. -/
def addYear? (d : DateNumbers) (n : Nat) : Option DateNumbers :=
  if d.yearAt.isSome then none else some { d.add n with yearAt := some d.numbers.length }

/-- There is one month. -/
def addMonth? (d : DateNumbers) (n : Nat) : Option DateNumbers :=
  if d.monthAt.isSome then none else some { d.add n with monthAt := some d.numbers.length }

/-- A number that is surely a year, as it has a century. -/
def addFullYear? (d : DateNumbers) (n : Nat) : Option DateNumbers := { d with century := true }.addYear? n

/-- A numeral of three digits or more has a century. -/
def addDigits? (d : DateNumbers) (cs : List Char) : Option DateNumbers :=
  if cs ≠ [] ∧ cs.all Text.isDecimal then
    if 2 < cs.length then d.addFullYear? (Text.decimalValue cs) else some (d.add (Text.decimalValue cs))
  else none

def at? (d : DateNumbers) (place : Option Nat) : Option Nat := place.bind fun i => d.numbers[i]?

def knownCount (d : DateNumbers) : Nat := d.yearAt.toList.length + d.monthAt.toList.length

/-- The last day of the month that was named; a month without its year may be that of a leap year. -/
def dayLimit (d : DateNumbers) : Nat :=
  match d.at? d.monthAt with
  | none => 31
  | some month => daysInMonth ((d.at? d.yearAt).getD 2000) month

/-- The parts where year and month are known: the number left over is the day. -/
def knownParts (d : DateNumbers) : DateParts :=
  let day := (List.range d.numbers.length).find? fun i => some i ≠ d.yearAt ∧ some i ≠ d.monthAt
  ⟨d.at? d.yearAt, d.at? d.monthAt, d.at? day⟩

def yearOrDay (n : Nat) : DateParts := if 31 < n then ⟨some n, none, none⟩ else ⟨none, none, some n⟩

def twoParts (a b : Nat) : DateParts :=
  if 31 < a then ⟨some a, some b, none⟩
  else if 31 < b then ⟨some b, some a, none⟩
  else ⟨none, some a, some b⟩

def threeParts (d : DateNumbers) (a b c : Nat) : DateParts :=
  match d.monthAt with
  | some 0 => if 31 < b then ⟨some b, some a, some c⟩ else ⟨some c, some a, some b⟩
  | some 1 => if 31 < a then ⟨some a, some b, some c⟩ else ⟨some c, some b, some a⟩
  | some _ => if 31 < b then ⟨some b, some c, some a⟩ else ⟨some a, some c, some b⟩
  | none =>
    if 31 < a ∨ d.yearAt = some 0 then ⟨some a, some b, some c⟩
    else if 12 < a then ⟨some c, some b, some a⟩
    else ⟨some c, some a, some b⟩

/-- Nothing where there are more than three numbers. -/
def parts? (d : DateNumbers) : Option DateParts :=
  if d.knownCount = d.numbers.length ∨ (d.knownCount = 2 ∧ d.numbers.length = 3) then some d.knownParts
  else
    match d.numbers, d.monthAt with
    | [], _ => some ⟨none, none, none⟩
    | [a], _ => some (yearOrDay a)
    | [a, b], some 0 => some { yearOrDay b with month := some a }
    | [a, b], some _ => some { yearOrDay a with month := some b }
    | [a, b], none => some (twoParts a b)
    | [a, b, c], _ => some (d.threeParts a b c)
    | _, _ => none

end DateNumbers

/-- The year meant by a year without its century: the one that is closest to the present, up to 50 years back and
49 ahead. -/
def closestYear (present year : Nat) : Nat :=
  if year < 100 then
    let guess := year + present / 100 * 100
    if present + 50 ≤ guess then guess - 100 else if guess + 50 < present then guess + 100 else guess
  else year

end Stencil.Calendar
