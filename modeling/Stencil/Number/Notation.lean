import Stencil.Number.Rounding
import Stencil.Number.Shortest

/-!
How numbers are written: floating-point numbers by their shortest digits, amounts with two places and grouped
thousands.
-/

namespace Stencil.Number

structure Notation where
  /-- Decimal exponents from `positionalFrom` up to but not including `positionalTo` need no exponent part. -/
  positionalFrom : Int
  positionalTo : Int
  exponentDigits : Nat
  undefined : String
  infinite : String

/-- Values have a point and at least one place after it, or an exponent with a sign and two digits. -/
def valueNotation : Notation := ⟨-4, 16, 2, "nan", "inf"⟩

/-- Documents write the same digits and name the three other values in words of their own. -/
def documentNotation : Notation := ⟨-4, 16, 2, "NaN", "Infinity"⟩

def digitsOf (n : Nat) : List Char := Nat.toDigits 10 n

def padStart (width : Nat) (pad : Char) (cs : List Char) : List Char :=
  List.replicate (width - cs.length) pad ++ cs

def signOf (negative : Bool) : List Char := if negative then ['-'] else []

/-- Digits with the point after the first `point` of them, and a zero on either side that would stay empty. -/
def positional (digits : List Char) (point : Int) : List Char :=
  if point ≤ 0 then '0' :: '.' :: List.replicate (-point).toNat '0' ++ digits
  else if (digits.length : Int) ≤ point then
    digits ++ List.replicate (point - digits.length).toNat '0' ++ ['.', '0']
  else digits.take point.toNat ++ '.' :: digits.drop point.toNat

def scientific (f : Notation) (digits : List Char) (exponent : Int) : List Char :=
  let head := digits.take 1
  let tail := digits.drop 1
  let point := if tail.isEmpty then [] else '.' :: tail
  let sign := if exponent < 0 then '-' else '+'
  head ++ point ++ 'e' :: sign :: padStart f.exponentDigits '0' (digitsOf exponent.natAbs)

/-- Drops the zeros that end a count of units. -/
def stripZeros (digits : List Char) : List Char :=
  (digits.reverse.dropWhile (· = '0')).reverse

def Notation.write (f : Notation) (x : Float) : List Char :=
  match Binary.ofFloat x with
  | .undefined => f.undefined.toList
  | .infinite negative => signOf negative ++ f.infinite.toList
  | .finite negative mantissa exponent =>
    if mantissa = 0 then signOf negative ++ ['0', '.', '0']
    else
      let (units, unit) := shortest mantissa exponent
      let written := digitsOf units
      let leading := unit + written.length - 1
      let digits := stripZeros written
      signOf negative ++
        if f.positionalFrom ≤ leading ∧ leading < f.positionalTo then positional digits (leading + 1)
        else scientific f digits leading

def showFloat (x : Float) : String := String.ofList (valueNotation.write x)

/-- Commas between groups of three, counted from the right; `seen` digits stand to the right already. -/
def groupReversed : Nat → List Char → List Char
  | _, [] => []
  | seen, c :: cs =>
    if seen ≠ 0 ∧ seen % 3 = 0 then ',' :: c :: groupReversed (seen + 1) cs
    else c :: groupReversed (seen + 1) cs

def groupThousands (digits : List Char) : List Char := (groupReversed 0 digits.reverse).reverse

/-- Two places after the point, commas between the thousands. -/
def writeAmount (x : Float) : List Char :=
  match Binary.ofFloat x with
  | .undefined => valueNotation.undefined.toList
  | .infinite negative => signOf negative ++ valueNotation.infinite.toList
  | .finite negative mantissa exponent =>
    let units := unitsAt 2 mantissa exponent
    signOf negative ++ groupThousands (digitsOf (units / 100)) ++ '.' :: padStart 2 '0' (digitsOf (units % 100))

end Stencil.Number
