/-!
The parts of a binary floating-point number with 53 significant bits: a finite one is `mantissa * 2 ^ exponent`, with
a sign that zero has too.
-/

namespace Stencil.Number

inductive Binary where
  | undefined
  | infinite (negative : Bool)
  | finite (negative : Bool) (mantissa : Nat) (exponent : Int)
deriving DecidableEq

def Binary.ofFloat (x : Float) : Binary :=
  let bits := x.toBits.toNat
  let negative := bits / Nat.pow 2 63 == 1
  let biased : Nat := bits / Nat.pow 2 52 % 2048
  let fraction := bits % Nat.pow 2 52
  if biased = 2047 then
    if fraction = 0 then .infinite negative else .undefined
  else if biased = 0 then .finite negative fraction (-1074)
  else .finite negative (fraction + Nat.pow 2 52) ((biased : Int) - 1075)

def Binary.isFinite : Binary → Bool
  | .finite .. => true
  | _ => false

/-- Numerator and denominator of `mantissa * 2 ^ exponent`. -/
def ratioOfBinary (mantissa : Nat) (exponent : Int) : Nat × Nat :=
  (mantissa * Nat.pow 2 exponent.toNat, Nat.pow 2 (-exponent).toNat)

/-- The number nearest to `digits * 10 ^ exponent`, infinite where that is too large. Exponents so far from zero that
the digits no longer matter are decided first. -/
def nearest (negative : Bool) (digits : Nat) (exponent : Int) : Float :=
  let x :=
    if digits = 0 ∨ exponent + digits.log2 + 1 < -400 then 0
    else if 400 < exponent then Float.ofScientific digits false 400
    else if exponent < 0 then Float.ofScientific digits true (-exponent).toNat
    else Float.ofScientific digits false exponent.toNat
  if negative then -x else x

def ofInt? (n : Int) : Option Float :=
  let x := nearest (n < 0) n.natAbs 0
  if (Binary.ofFloat x).isFinite then some x else none

end Stencil.Number
