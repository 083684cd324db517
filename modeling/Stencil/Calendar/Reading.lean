import Stencil.Calendar.DateNumbers
import Stencil.Calendar.Vocabulary

/-!
Readings: what the lexemes of a date text that were passed say about a date, a time of day and a zone, and how the next
lexeme, with those around it, adds to this.
-/

namespace Stencil.Calendar

structure Reading where
  numbers : DateNumbers
  weekday : Option Nat
  hour : Option Nat
  minute : Option Nat
  second : Option Nat
  microsecond : Option Nat
  zoneName : Option Lexeme
  offset : Option Int

/-- A reading and how many more lexemes it took. -/
abbrev Step := Option (Reading × Nat)

namespace Reading

def start : Reading := ⟨.start, none, none, none, none, none, none, none⟩

def isEmpty (r : Reading) : Bool :=
  r.numbers.numbers.isEmpty && r.weekday.isNone && r.hour.isNone && r.minute.isNone && r.second.isNone &&
    r.microsecond.isNone && r.zoneName.isNone && r.offset.isNone

def hourIn (h : Half) (hour : Nat) : Nat :=
  match h with
  | .morning => if hour = 12 then 0 else hour
  | .afternoon => if hour < 12 then hour + 12 else hour

/-- Seconds with up to six digits of their fraction. -/
def seconds? (t : Lexeme) : Option (Nat × Nat) :=
  match t.dropWhile (· ≠ '.') with
  | [] => t.whole?.map fun n => (n, 0)
  | _ :: fraction => do
    let n ← Lexeme.whole? (t.takeWhile (· ≠ '.'))
    let micro ← Lexeme.whole? ((fraction ++ ['0', '0', '0', '0', '0']).take 6)
    return (n, micro)

def setMinutes (r : Reading) (q : Quantity) : Reading := { r with minute := some q.whole, second := q.sixtieths? }

def setSeconds? (r : Reading) (t : Lexeme) : Option Reading := do
  let (second, micro) ← seconds? t
  return { r with second := some second, microsecond := some micro }

def addQuantity? (r : Reading) (q : Quantity) : Option Reading :=
  if q.atMost 100 then some { r with numbers := r.numbers.add q.whole }
  else (r.numbers.addFullYear? q.whole).map fun numbers => { r with numbers }

def addDigits? (r : Reading) (t : Lexeme) : Option Reading :=
  (r.numbers.addDigits? t).map fun numbers => { r with numbers }

def addMonth? (r : Reading) (month : Nat) : Option Reading :=
  (r.numbers.addMonth? month).map fun numbers => { r with numbers }

def addMonthOrDigits? (r : Reading) (t : Lexeme) : Option Reading :=
  match t.month? with
  | some month => r.addMonth? month
  | none => r.addDigits? t

/-- The hour and, of four digits, the minute. -/
def compactClock? (r : Reading) (t : Lexeme) : Option Reading := do
  let hour ← Lexeme.whole? (t.take 2)
  if t.length = 4 then
    let minute ← Lexeme.whole? (t.drop 2)
    return { r with hour := some hour, minute := some minute }
  else return { r with hour := some hour }

/-- Six digits are a date where there is none yet, else a time. -/
def sixDigits? (r : Reading) (t : Lexeme) : Option Reading := do
  if r.numbers.numbers.isEmpty && '.' ∉ t then
    let r ← r.addDigits? (t.take 2)
    let r ← r.addDigits? ((t.drop 2).take 2)
    r.addDigits? (t.drop 4)
  else
    let hour ← Lexeme.whole? (t.take 2)
    let minute ← Lexeme.whole? ((t.drop 2).take 2)
    { r with hour := some hour, minute := some minute }.setSeconds? (t.drop 4)

/-- Year, month and day, and of more digits the hour, the minute and the second. -/
def eightDigits? (r : Reading) (t : Lexeme) : Option Reading := do
  let r ← r.addDigits? (t.take 4)
  let r ← r.addDigits? ((t.drop 4).take 2)
  let r ← r.addDigits? ((t.drop 6).take 2)
  if t.length = 8 then return r
  else
    let hour ← Lexeme.whole? ((t.drop 8).take 2)
    let minute ← Lexeme.whole? ((t.drop 10).take 2)
    let r := { r with hour := some hour, minute := some minute }
    if t.length = 12 then return r
    else
      let second ← Lexeme.whole? (t.drop 12)
      return { r with second := some second }

def followingUnit : ClockUnit → Option ClockUnit
  | .hours => some .minutes
  | .minutes => some .seconds
  | .seconds => none

/-- The unit written after a numeral, else the one that follows the unit written before it, and how many lexemes this
takes. The latest lexemes come first in `before`. -/
def unitAround? (before after : List Lexeme) : Option (Option ClockUnit × Nat) :=
  let behind := match before with
    | u :: rest =>
      match u.unit? with
      | some unit => some (followingUnit unit, 0)
      | none =>
        match rest with
        | v :: _ => if u = [' '] ∧ after = [] then v.unit?.map fun unit => (followingUnit unit, 0) else none
        | [] => none
    | [] => none
  match after with
  | u :: rest =>
    match u.unit? with
    | some unit => some (some unit, 1)
    | none =>
      match rest with
      | v :: _ =>
        match (if u = [' '] then v.unit? else none) with
        | some unit => some (some unit, 2)
        | none => behind
      | [] => behind
  | [] => behind

def setUnit? (r : Reading) (t : Lexeme) (q : Quantity) : Option ClockUnit → Option Reading
  | some .hours =>
    some { r with hour := some q.whole, minute := if q.hasFraction then some q.sixtieths else r.minute }
  | some .minutes => some (r.setMinutes q)
  | some .seconds => r.setSeconds? t
  | none => some r

def clock? (r : Reading) (q : Quantity) (minute : Lexeme) (rest : List Lexeme) : Step := do
  let m ← minute.quantity?
  let r := { r with hour := some q.whole }.setMinutes m
  match rest with
  | [':'] :: second :: _ => return (← r.setSeconds? second, 4)
  | _ => return (r, 2)

def marked? (r : Reading) (t mark : Lexeme) (rest : List Lexeme) : Step := do
  let r ← r.addDigits? t
  match rest with
  | [] => return (r, 1)
  | u :: rest =>
    if u.isFiller then return (r, 1)
    else
      let r ← if u.all Text.isDigitLike then r.addDigits? u else u.month?.bind r.addMonth?
      match rest with
      | [] => return (r, 2)
      | v :: rest => if v = mark then return (← r.addMonthOrDigits? (← rest.head?), 4) else return (r, 2)

/-- A numeral that ends the text or stands before a filler. -/
def lone? (r : Reading) (q : Quantity) (rest : List Lexeme) : Step :=
  match rest.head?.bind Lexeme.half? with
  | some half => some ({ r with hour := some (hourIn half q.whole) }, 2)
  | none => (r.addQuantity? q).map fun r => (r, 1)

def beginsClock : List Lexeme → Bool
  | [] => false
  | t :: _ => t = [':'] || t.unit?.isSome

def joined? (r : Reading) (t : Lexeme) (q : Quantity) (after : List Lexeme) : Step :=
  match after with
  | [] => r.lone? q []
  | next :: rest =>
    if next = [':'] ∧ rest ≠ [] then r.clock? q (rest.headD []) rest.tail
    else if next ∈ [['-'], ['/'], ['.']] then r.marked? t next rest
    else if next.isFiller then r.lone? q rest
    else
      match (if q.atLeast 24 then none else next.half?) with
      | some half => some ({ r with hour := some (hourIn half q.whole) }, 1)
      | none =>
        if q.atLeast 1 && q.atMost r.numbers.dayLimit then (r.addQuantity? q).map fun r => (r, 0) else none

def numeral? (r : Reading) (t : Lexeme) (q : Quantity) (before after : List Lexeme) : Step :=
  let size := t.length
  if r.numbers.numbers.length = 3 ∧ (size = 2 ∨ size = 4) ∧ r.hour = none ∧ !beginsClock after then
    (r.compactClock? t).map fun r => (r, 0)
  else if size = 6 ∨ (6 < size ∧ t.idxOf '.' = 6) then (r.sixDigits? t).map fun r => (r, 0)
  else if size = 8 ∨ size = 12 ∨ size = 14 then (r.eightDigits? t).map fun r => (r, 0)
  else
    match unitAround? before after with
    | some (unit, taken) => (r.setUnit? t q unit).map fun r => (r, taken)
    | none => r.joined? t q after

/-- A month that was named, and the numbers that are written with it. -/
def named? (r : Reading) (present : Nat) (month : Nat) (after : List Lexeme) : Step := do
  let r ← r.addMonth? month
  match after with
  | [] => return (r, 0)
  | mark :: rest =>
    if mark = ['-'] ∨ mark = ['/'] then
      let r ← r.addDigits? (← rest.head?)
      match rest.tail with
      | v :: rest => if v = mark then return (← r.addDigits? (← rest.head?), 4) else return (r, 2)
      | [] => return (r, 2)
    else
      match after with
      | [' '] :: link :: [' '] :: year :: _ =>
        if link.word = "of" then
          match year.whole? with
          | some n =>
            let n := closestYear present n
            let numbers ← if 100 ≤ n then r.numbers.addFullYear? n else r.numbers.addYear? n
            return ({ r with numbers }, 4)
          | none => return (r, 4)
        else return (r, 0)
      | _ => return (r, 0)

/-- Hours count to 12 where a half of the day is named. -/
def half? (r : Reading) (h : Half) : Step :=
  match r.hour with
  | none => none
  | some hour => if hour ≤ 12 then some ({ r with hour := some (hourIn h hour) }, 0) else none

def couldBeZone (r : Reading) (offset : Option Int) (t : Lexeme) : Bool :=
  r.hour.isSome && r.zoneName.isNone && offset.isNone && t.isZoneName

/-- An offset east or west of Greenwich, and a zone name in brackets after it. -/
def offset? (r : Reading) (west : Bool) (after : List Lexeme) : Step :=
  match after with
  | [] => none
  | digits :: rest => do
    let (hours, minutes, taken) ←
      if digits.length = 4 then do
        pure (← Lexeme.whole? (digits.take 2), ← Lexeme.whole? (digits.drop 2), 1)
      else if rest.head? = some [':'] then do
        pure (← digits.whole?, ← (← rest.tail.head?).whole?, 3)
      else if digits.length ≤ 2 then do
        pure (← digits.whole?, 0, 1)
      else none
    let size : Int := hours * 3600 + minutes * 60
    let r := { r with offset := some (if west then -size else size) }
    match after.drop taken with
    | space :: ['('] :: name :: [')'] :: _ =>
      if space.isFiller && 3 ≤ name.length && r.couldBeZone none name then
        return ({ r with zoneName := some name }, taken + 4)
      else return (r, taken)
    | _ => return (r, taken)

/-- A zone name. A sign right after it counts the other way round, from the zone to Greenwich. -/
def zone? (r : Reading) (t : Lexeme) (after : List Lexeme) : Step :=
  let named := { r with zoneName := some t, offset := if t = ['z'] then some 0 else none }
  match after with
  | sign :: rest =>
    if sign = ['+'] ∨ sign = ['-'] then
      let r := { r with zoneName := if t.isGreenwich then none else some t, offset := none }
      (r.offset? (sign = ['+']) rest).map fun (r, taken) => (r, taken + 1)
    else some (named, 0)
  | [] => some (named, 0)

def take? (r : Reading) (present : Nat) (before : List Lexeme) (t : Lexeme) (after : List Lexeme) : Step :=
  if t.isNonNumber then none
  else
    match t.quantity?, t.weekday?, t.month?, t.half? with
    | some q, _, _, _ => r.numeral? t q before after
    | none, some weekday, _, _ => some ({ r with weekday := some weekday }, 0)
    | none, none, some month, _ => r.named? present month after
    | none, none, none, some half => r.half? half
    | none, none, none, none =>
      if r.couldBeZone r.offset t then r.zone? t after
      else if r.hour.isSome && (t = ['+'] || t = ['-']) then r.offset? (t = ['-']) after
      else if t.isFiller then some (r, 0)
      else none

end Reading

end Stencil.Calendar
