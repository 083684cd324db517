import Stencil.Number.Binary
import Stencil.Number.Whole

/-!
The lenient reading of numbers: blanks around the text and commas anywhere are dropped, and what is left is an
optional sign and decimal digits with at most one point. A line feed may end it.
-/

namespace Stencil.Number

structure Numeral where
  negative : Bool
  whole : List Char
  fraction : List Char
deriving DecidableEq

def readNumeral? (cs : List Char) : Option Numeral :=
  let (negative, body) := signed cs
  let whole := body.takeWhile Text.isDecimal
  let rest := body.dropWhile Text.isDecimal
  let (fraction, rest) := match rest with
    | '.' :: tail => (tail.takeWhile Text.isDecimal, tail.dropWhile Text.isDecimal)
    | rest => ([], rest)
  if (whole ≠ [] ∨ fraction ≠ []) ∧ (rest = [] ∨ rest = ['\n']) then some ⟨negative, whole, fraction⟩ else none

def Numeral.toFloat (n : Numeral) : Float :=
  nearest n.negative (Text.decimalValue (n.whole ++ n.fraction)) (-(n.fraction.length : Int))

def readLenient? (s : String) : Option Float :=
  (readNumeral? ((Text.trim s.toList).filter (· ≠ ','))).map Numeral.toFloat

end Stencil.Number
