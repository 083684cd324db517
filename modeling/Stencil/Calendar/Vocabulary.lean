import Stencil.Calendar.Lexeme
import Stencil.Number.Whole
import Stencil.Text.Case

/-!
What the lexemes of a date text mean by themselves: numerals, the names of weekdays, months and units, the halves of
the day, zone names, and fillers that mean nothing.
-/

namespace Stencil.Calendar

/-- A decimal numeral: `units` of the last of its `places`. -/
structure Quantity where
  units : Nat
  places : Nat

namespace Quantity

def scale (q : Quantity) : Nat := Nat.pow 10 q.places

def whole (q : Quantity) : Nat := q.units / q.scale

def sixtieths (q : Quantity) : Nat := 60 * (q.units % q.scale) / q.scale

def hasFraction (q : Quantity) : Bool := q.units % q.scale ≠ 0

def sixtieths? (q : Quantity) : Option Nat := if q.hasFraction then some q.sixtieths else none

def atLeast (q : Quantity) (n : Nat) : Bool := n * q.scale ≤ q.units

def atMost (q : Quantity) (n : Nat) : Bool := q.units ≤ n * q.scale

end Quantity

inductive ClockUnit where
  | hours
  | minutes
  | seconds
deriving DecidableEq

inductive Half where
  | morning
  | afternoon
deriving DecidableEq

namespace Lexeme

def whole? (t : Lexeme) : Option Nat :=
  if t ≠ [] ∧ t.all Text.isDecimal ∧ t.length ≤ Number.maxWholeDigits then some (Text.decimalValue t) else none

def quantity? (t : Lexeme) : Option Quantity :=
  let whole := t.takeWhile (· ≠ '.')
  let fraction := (t.dropWhile (· ≠ '.')).drop 1
  if whole ++ fraction ≠ [] ∧ (whole ++ fraction).all Text.isDecimal then
    some ⟨Text.decimalValue (whole ++ fraction), fraction.length⟩
  else none

def word (t : Lexeme) : String := String.ofList (Text.lower t)

def isNonNumber (t : Lexeme) : Bool := t.word ∈ ["nan", "inf", "infinity"]

def placeIn (groups : List (List String)) (t : Lexeme) : Option Nat :=
  groups.findIdx? fun words => t.word ∈ words

def weekday? : Lexeme → Option Nat :=
  placeIn [["mon", "monday"], ["tue", "tuesday"], ["wed", "wednesday"], ["thu", "thursday"], ["fri", "friday"],
    ["sat", "saturday"], ["sun", "sunday"]]

def month? (t : Lexeme) : Option Nat :=
  (placeIn [["jan", "january"], ["feb", "february"], ["mar", "march"], ["apr", "april"], ["may"], ["jun", "june"],
    ["jul", "july"], ["aug", "august"], ["sep", "sept", "september"], ["oct", "october"], ["nov", "november"],
    ["dec", "december"]] t).map (· + 1)

def unit? (t : Lexeme) : Option ClockUnit :=
  if t.word ∈ ["h", "hour", "hours"] then some .hours
  else if t.word ∈ ["m", "minute", "minutes"] then some .minutes
  else if t.word ∈ ["s", "second", "seconds"] then some .seconds
  else none

def half? (t : Lexeme) : Option Half :=
  if t.word ∈ ["am", "a"] then some .morning else if t.word ∈ ["pm", "p"] then some .afternoon else none

def isFiller (t : Lexeme) : Bool :=
  t.word ∈ [" ", ".", ",", ";", "-", "/", "'", "at", "on", "and", "ad", "m", "t", "of", "st", "nd", "rd", "th"]

def isZoneName (t : Lexeme) : Bool := t.length ≤ 5 && (t.all (fun c => 'A' ≤ c && c ≤ 'Z') || t = ['z'])

def isGreenwich (t : Lexeme) : Bool := t.word ∈ ["utc", "gmt", "z"]

end Lexeme

end Stencil.Calendar
