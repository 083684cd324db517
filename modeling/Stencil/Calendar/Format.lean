import Stencil.Calendar.Elapsed
import Stencil.Text.Case

/-!
Date formats. A percent sign begins a directive: flags, a width, a modifier and a conversion letter. The zone's
directives are filled in first. What is no directive stands for itself.
-/

namespace Stencil.Calendar

def weekdayNames : List String :=
  ["Monday", "Tuesday", "Wednesday", "Thursday", "Friday", "Saturday", "Sunday"]

def monthNames : List String :=
  ["January", "February", "March", "April", "May", "June", "July", "August", "September", "October", "November",
    "December"]

def weekdayName (m : Moment) : List Char := (weekdayNames.getD m.date.weekday "").toList

def monthName (m : Moment) : List Char := (monthNames.getD (m.date.month - 1) "").toList

def halfName (m : Moment) : List Char := if m.hour < 12 then ['A', 'M'] else ['P', 'M']

def halfHour (m : Moment) : Nat := if m.hour % 12 = 0 then 12 else m.hour % 12

def yearDay (m : Moment) : Nat := m.date.ordinalInYear - 1

/-- Sunday is 0. -/
def sundayWeekday (m : Moment) : Nat := (m.date.weekday + 1) % 7

def epochSeconds (m : Moment) : Int :=
  ((m.date.dayNumber : Int) - 719163) * 86400 + m.hour * 3600 + m.minute * 60 + m.second

/-- Days from the Monday that begins week 1 to the day; weeks belong to the year that holds their Thursday. -/
def isoWeekDays (yearDay : Int) (sundayWeekday : Int) : Int :=
  yearDay - (yearDay - sundayWeekday + 4 + 7 * 53) % 7 + 4 - 1

def yearLength (year : Nat) : Int := if isLeap year then 366 else 365

/-- The year that the week belongs to and its number. -/
def isoWeek (m : Moment) : Nat × Nat :=
  let y := m.date.year
  let days := isoWeekDays (yearDay m) (sundayWeekday m)
  if days < 0 then
    (y - 1, (isoWeekDays (yearDay m + yearLength (y - 1)) (sundayWeekday m) / 7 + 1).toNat)
  else
    let beyond := isoWeekDays (yearDay m - yearLength y) (sundayWeekday m)
    if 0 ≤ beyond then (y + 1, (beyond / 7 + 1).toNat) else (y, (days / 7 + 1).toNat)

inductive Yield where
  /-- A number with at least this many digits, padded by blanks where `blank` says so. -/
  | number (digits : Nat) (value : Int) (blank : Bool)
  | text (cs : List Char)
  /-- Text that a change of case makes small instead of capital. -/
  | half (cs : List Char)
  /-- Text that stays as it is. -/
  | small (cs : List Char)
  | format (cs : List Char)
  /-- No width widens it. -/
  | nothing

structure Directive where
  pad : Option Char
  capital : Bool
  changeCase : Bool
  width : Option Nat
  modifier : Option Char
  written : List Char

def lowerAscii (cs : List Char) : List Char := cs.map Char.toLower

/-- The capital of a letter, where it is one character. -/
def capitalOf (c : Char) : Char :=
  match Text.upperChar c with
  | [u] => u
  | _ => c

def capitals (cs : List Char) : List Char := cs.map capitalOf

def allows (modifier : Option Char) (conversion : Char) : Bool :=
  match modifier with
  | none => true
  | some 'E' => conversion ∈ ['c', 'C', 'x', 'X', 'y', 'Y', 'n', 't', 'p', 'P', 'r', 'R', 's', 'T', 'u']
  | some _ => conversion ∉ ['%', 'a', 'A', 'c', 'D', 'F', 'x', 'X', 'Y']

def yield? (m : Moment) (conversion : Char) : Option Yield :=
  match conversion with
  | '%' => some (.text ['%'])
  | 'a' => some (.text ((weekdayName m).take 3))
  | 'A' => some (.text (weekdayName m))
  | 'b' => some (.text ((monthName m).take 3))
  | 'h' => some (.text ((monthName m).take 3))
  | 'B' => some (.text (monthName m))
  | 'c' => some (.format "%a %b %e %H:%M:%S %Y".toList)
  | 'C' => some (.number 1 (m.date.year / 100) false)
  | 'd' => some (.number 2 m.date.day false)
  | 'D' => some (.format "%m/%d/%y".toList)
  | 'e' => some (.number 2 m.date.day true)
  | 'F' => some (.format "%Y-%m-%d".toList)
  | 'g' => some (.number 2 ((isoWeek m).1 % 100) false)
  | 'G' => some (.number 1 (isoWeek m).1 false)
  | 'H' => some (.number 2 m.hour false)
  | 'I' => some (.number 2 (halfHour m) false)
  | 'j' => some (.number 3 m.date.ordinalInYear false)
  | 'k' => some (.number 2 m.hour true)
  | 'l' => some (.number 2 (halfHour m) true)
  | 'm' => some (.number 2 m.date.month false)
  | 'M' => some (.number 2 m.minute false)
  | 'n' => some (.text ['\n'])
  | 'p' => some (.half (halfName m))
  | 'P' => some (.small (lowerAscii (halfName m)))
  | 'r' => some (.format "%I:%M:%S %p".toList)
  | 'R' => some (.format "%H:%M".toList)
  | 's' => some (.text (Number.signOf (epochSeconds m < 0) ++ Number.digitsOf (epochSeconds m).natAbs))
  | 'S' => some (.number 2 m.second false)
  | 't' => some (.text ['\t'])
  | 'T' => some (.format "%H:%M:%S".toList)
  | 'u' => some (.number 1 (m.date.weekday + 1) false)
  | 'U' => some (.number 2 ((yearDay m + 7 - sundayWeekday m) / 7) false)
  | 'V' => some (.number 2 (isoWeek m).2 false)
  | 'w' => some (.number 1 (sundayWeekday m) false)
  | 'W' => some (.number 2 ((yearDay m + 7 - m.date.weekday) / 7) false)
  | 'x' => some (.format "%m/%d/%y".toList)
  | 'X' => some (.format "%H:%M:%S".toList)
  | 'y' => some (.number 2 (m.date.year % 100) false)
  | 'Y' => some (.number 1 m.date.year false)
  | 'z' => some .nothing
  | 'Z' => some (.text [])
  | _ => none

def Directive.widen (d : Directive) (cs : List Char) : List Char :=
  Number.padStart (d.width.getD 0) (if d.pad = some '0' then '0' else ' ') cs

def Directive.cased (d : Directive) (cs : List Char) : List Char := if d.capital then capitals cs else cs

def Directive.number (d : Directive) (digits : Nat) (value : Int) (blank : Bool) : List Char :=
  let pad := if blank ∧ d.pad ≠ some '0' ∧ d.pad ≠ some '-' then some '_' else d.pad
  let wanted := max digits (d.width.getD 0)
  let plain := Number.digitsOf value.natAbs
  let sign := Number.signOf (value < 0)
  if pad = some '-' then d.widen (sign ++ plain)
  else if pad = some '_' then Number.padStart wanted ' ' (sign ++ plain)
  else sign ++ Number.padStart (wanted - sign.length) '0' plain

/-- The conversions that a format within a conversion uses: no flags and no nesting. -/
def expandPlain (m : Moment) : List Char → List Char
  | '%' :: c :: cs =>
    let bare : Directive := ⟨none, false, false, none, none, []⟩
    let shown := match yield? m c with
      | some (.number digits value blank) => bare.number digits value blank
      | some (.text text) => text
      | some (.half text) => text
      | some (.small text) => text
      | _ => []
    shown ++ expandPlain m cs
  | c :: cs => c :: expandPlain m cs
  | [] => []

def Directive.show (d : Directive) (m : Moment) : Yield → List Char
  | .number digits value blank => d.number digits value blank
  | .text cs => d.widen (if d.capital || d.changeCase then capitals cs else cs)
  | .small cs => d.widen cs
  | .half cs => d.widen (if d.changeCase then lowerAscii cs else d.cased cs)
  | .format cs => d.widen (d.cased (expandPlain m cs))
  | .nothing => []

def isFlag (c : Char) : Bool := c ∈ ['_', '-', '0', '^', '#']

def isAsciiDecimal (c : Char) : Bool := '0' ≤ c && c ≤ '9'

/-- A directive after its percent sign: what it says, its conversion, and how many characters it takes. -/
def directiveOf (cs : List Char) : Directive × Option Char × Nat :=
  let flags := cs.takeWhile isFlag
  let afterFlags := cs.drop flags.length
  let width := afterFlags.takeWhile isAsciiDecimal
  let afterWidth := afterFlags.drop width.length
  let modifier := match afterWidth with
    | 'E' :: _ => some 'E'
    | 'O' :: _ => some 'O'
    | _ => none
  let afterModifier := if modifier.isSome then afterWidth.drop 1 else afterWidth
  let before := cs.length - afterModifier.length
  let length := if afterModifier.isEmpty then before else before + 1
  let pad := (flags.filter (· ∈ ['_', '-', '0'])).getLast?
  let size := if width.isEmpty then none else some ((String.ofList width).toNat?.getD 0)
  (⟨pad, '^' ∈ flags, '#' ∈ flags, size, modifier, '%' :: cs.take length⟩, afterModifier.head?, length)

def isShortMonth (conversion : Option Char) : Bool := conversion = some 'b' || conversion = some 'h'

/-- What is no directive is shown as it was written, from its last percent sign on. -/
def convert (m : Moment) (d : Directive) (conversion : Option Char) : List Char :=
  let written := if conversion = some '%' then ['%'] else d.written
  let unknown := d.widen (if d.capital || (d.changeCase && isShortMonth conversion) then capitals written else written)
  match conversion with
  | none => unknown
  | some c =>
    if allows d.modifier c then
      match yield? m c with
      | some y => d.show m y
      | none => unknown
    else unknown

def expand (m : Moment) : List Char → List Char
  | [] => []
  | c :: cs =>
    if c = '%' then
      let (d, conversion, length) := directiveOf cs
      convert m d conversion ++ expand m (cs.drop length)
    else c :: expand m cs
termination_by cs => cs.length
decreasing_by
  all_goals simp only [List.length_cons, List.length_drop]
  all_goals omega

/-- An offset of a day or more has no written form. -/
def offsetText (m : Moment) : Result (List Char) := do
  match ← m.offset with
  | none => return []
  | some offset => return offsetDigits [] offset

def zoneText (m : Moment) : List Char :=
  match m.zone with
  | some ⟨some name, _⟩ => name.toList.flatMap fun c => if c = '%' then ['%', '%'] else [c]
  | _ => []

/-- Fills in offset, zone name and microseconds; a null character ends the format. -/
def fillZone (m : Moment) : List Char → Result (List Char)
  | [] => .ok []
  | '%' :: 'z' :: cs => do return (← offsetText m) ++ (← fillZone m cs)
  | '%' :: 'Z' :: cs => do return zoneText m ++ (← fillZone m cs)
  | '%' :: 'f' :: cs => do return padded 6 m.microsecond ++ (← fillZone m cs)
  | '%' :: c :: cs => if c.toNat = 0 then .ok ['%'] else do return '%' :: c :: (← fillZone m cs)
  | c :: cs => if c.toNat = 0 then .ok [] else do return c :: (← fillZone m cs)

/-- Room for the output: at least 256 characters for each of the format, a power of two from 1024 on. -/
def outputLimit (formatLength : Nat) : Nat :=
  max 1024 (Nat.pow 2 (256 * formatLength - 1).log2.succ)

/-- Output that exceeds its room is dropped. -/
def Moment.format (m : Moment) (format : String) : Result String := do
  let filled ← fillZone m format.toList
  let shown := expand m filled
  return if shown.length < outputLimit filled.length then String.ofList shown else ""

end Stencil.Calendar
