import Stencil.Text.Blank
import Stencil.Text.Digit

/-!
Whole numbers in text: an optional sign and decimal digits of any script, with blanks around them.
-/

namespace Stencil.Number

inductive WholeFault where
  | notWhole (text : String)
  | tooManyDigits (count : Nat)
deriving DecidableEq

/-- Longer numerals are refused. -/
def maxWholeDigits : Nat := 4300

/-- The four information separators are blanks, but a numeral may not stand beside them. -/
def isInformationSeparator (c : Char) : Bool := 0x1c ≤ c.toNat && c.toNat ≤ 0x1f

def signed : List Char → Bool × List Char
  | '+' :: cs => (false, cs)
  | '-' :: cs => (true, cs)
  | cs => (false, cs)

/-- Sign and digits of a numeral without blanks around it. -/
def wholeShape? (cs : List Char) : Option (Bool × List Char) :=
  let (negative, digits) := signed cs
  if digits ≠ [] ∧ digits.all Text.isDecimal then some (negative, digits) else none

/-- Nothing where the text is no numeral. -/
def readWhole (s : String) : Except WholeFault (Option Int) :=
  let cs := s.toList
  match wholeShape? (Text.trim cs) with
  | none => .ok none
  | some (negative, digits) =>
    if (cs.takeWhile Text.isBlank).any isInformationSeparator then .error (.notWhole s)
    else if maxWholeDigits < digits.length then .error (.tooManyDigits digits.length)
    else if (cs.reverse.takeWhile Text.isBlank).any isInformationSeparator then .error (.notWhole s)
    else
      let n : Int := Text.decimalValue digits
      .ok (some (if negative then -n else n))

end Stencil.Number
