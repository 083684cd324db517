import Stencil.Number.Binary

/-!
Rounding to decimal places. A value halfway between two neighbours goes to the even one.
-/

namespace Stencil.Number

/-- The whole number nearest to `n / d`. -/
def divideRound (n d : Nat) : Nat :=
  let q := n / d
  let r := n % d
  if 2 * r < d then q
  else if d < 2 * r then q + 1
  else q + q % 2

/-- `mantissa * 2 ^ exponent` counted in units of `10 ^ -places`, to the nearest unit. -/
def unitsAt (places : Int) (mantissa : Nat) (exponent : Int) : Nat :=
  let (n, d) := ratioOfBinary mantissa exponent
  divideRound (n * Nat.pow 10 places.toNat) (d * Nat.pow 10 (-places).toNat)

/-- Beyond the first bound every number is a whole count of units already. -/
def finestPlaces : Int := 323

/-- Below this bound a unit exceeds twice every number. -/
def coarsestPlaces : Int := -308

/-- Nothing where the rounded value is too large for a number. -/
def roundTo? (x : Float) (places : Int) : Option Float :=
  match Binary.ofFloat x with
  | .finite negative mantissa exponent =>
    if finestPlaces < places then some x
    else if places < coarsestPlaces then some (nearest negative 0 0)
    else
      let y := nearest negative (unitsAt places mantissa exponent) (-places)
      if (Binary.ofFloat y).isFinite then some y else none
  | _ => some x

end Stencil.Number
