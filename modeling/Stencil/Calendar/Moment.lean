import Stencil.Calendar.Date
import Stencil.Number.Notation

/-!
A date with a time of day, read on the wall clock of an optional zone.
-/

namespace Stencil.Calendar

structure Zone where
  name : Option String
  /-- Microseconds east of Greenwich. -/
  offset : Int
deriving DecidableEq

structure Moment where
  date : Date
  hour : Nat
  minute : Nat
  second : Nat
  microsecond : Nat
  zone : Option Zone
deriving DecidableEq

def Moment.isValid (m : Moment) : Bool :=
  m.date.isValid && m.hour < 24 && m.minute < 60 && m.second < 60 && m.microsecond < 1000000

def Moment.midnight (d : Date) : Moment := ⟨d, 0, 0, 0, 0, none⟩

def padded (width n : Nat) : List Char := Number.padStart width '0' (Number.digitsOf n)

def colon : List Char := [':']

/-- A point and six digits, where there is anything to show. -/
def fractionDigits (microsecond : Nat) : List Char := if microsecond = 0 then [] else '.' :: padded 6 microsecond

/-- Sign, hours and minutes of an offset, and its seconds and their fraction where there are any. -/
def offsetDigits (separator : List Char) (offset : Int) : List Char :=
  let fraction := offset.natAbs % 1000000
  let n := offset.natAbs / 1000000
  let seconds :=
    if n % 60 = 0 ∧ fraction = 0 then [] else separator ++ padded 2 (n % 60) ++ fractionDigits fraction
  (if offset < 0 then '-' else '+') :: padded 2 (n / 3600) ++ separator ++ padded 2 (n / 60 % 60) ++ seconds

/-- The zone at a fixed distance from Greenwich, in microseconds. -/
def Zone.away (offset : Int) : Zone :=
  if offset = 0 then ⟨some "UTC", 0⟩
  else ⟨some ("UTC" ++ String.ofList (offsetDigits colon offset)), offset⟩

/-- The zone that many seconds east of Greenwich. -/
def Zone.fixed (seconds : Int) : Zone := .away (seconds * 1000000)

def Date.digits (d : Date) : List Char :=
  padded 4 d.year ++ '-' :: padded 2 d.month ++ '-' :: padded 2 d.day

def Moment.digits (separator : Char) (m : Moment) : List Char :=
  let offset := match m.zone with
    | some z => offsetDigits colon z.offset
    | none => []
  m.date.digits ++ separator :: padded 2 m.hour ++ ':' :: padded 2 m.minute ++ ':' :: padded 2 m.second ++
    fractionDigits m.microsecond ++ offset

def Date.text (d : Date) : String := String.ofList d.digits

def Moment.text (m : Moment) : String := String.ofList (m.digits ' ')

def Moment.isoText (m : Moment) : String := String.ofList (m.digits 'T')

end Stencil.Calendar
