import Stencil.Number.Binary

/-!
The shortest decimal that reads back as a given number. On the grid of `n` significant digits the number has two
neighbours; the first grid on which one of them reads back gives the digits, and of two the nearer is taken.
-/

namespace Stencil.Number

/-- Whether `a * 2 ^ p` is below `c * 10 ^ t`. -/
def belowDecimal (a : Nat) (p : Int) (c : Nat) (t : Int) : Bool :=
  a * Nat.pow 2 p.toNat * Nat.pow 10 (-t).toNat < c * Nat.pow 10 t.toNat * Nat.pow 2 (-p).toNat

/-- Whether `c * 10 ^ t` is below `a * 2 ^ p`. -/
def aboveDecimal (a : Nat) (p : Int) (c : Nat) (t : Int) : Bool :=
  c * Nat.pow 10 t.toNat * Nat.pow 2 (-p).toNat < a * Nat.pow 2 p.toNat * Nat.pow 10 (-t).toNat

/-- Whether `c * 10 ^ t` is nearer to `mantissa * 2 ^ exponent` than to the numbers next to it. Below a power of two
the next number is half as far away. -/
def readsBack (mantissa : Nat) (exponent : Int) (c : Nat) (t : Int) : Bool :=
  let low := if mantissa = Nat.pow 2 52 ∧ exponent ≠ -1074 then 4 * mantissa - 1 else 4 * mantissa - 2
  let high := 4 * mantissa + 2
  let p := exponent - 2
  if mantissa % 2 = 0 then !aboveDecimal low p c t && !belowDecimal high p c t
  else belowDecimal low p c t && aboveDecimal high p c t

/-- The decimal exponent `k` with `10 ^ k ≤ mantissa * 2 ^ exponent < 10 ^ (k + 1)`, from an estimate that is at most
one off. -/
def decimalExponent (mantissa : Nat) (exponent : Int) : Int :=
  let estimate := ((mantissa.log2 : Int) + exponent) * 30103 / 100000
  if belowDecimal mantissa exponent 1 estimate then estimate - 1
  else if belowDecimal mantissa exponent 1 (estimate + 1) then estimate
  else estimate + 1

/-- The neighbour on the grid of unit `10 ^ t` that reads back. -/
def gridDigits? (mantissa : Nat) (exponent : Int) (t : Int) : Option Nat :=
  let (n, d) := ratioOfBinary mantissa exponent
  let floor := n * Nat.pow 10 (-t).toNat / (d * Nat.pow 10 t.toNat)
  let lowReads := readsBack mantissa exponent floor t
  let highReads := readsBack mantissa exponent (floor + 1) t
  if lowReads && highReads then
    let p := exponent + 1
    if belowDecimal mantissa p (2 * floor + 1) t then some floor
    else if aboveDecimal mantissa p (2 * floor + 1) t then some (floor + 1)
    else some (floor + floor % 2)
  else if lowReads then some floor
  else if highReads then some (floor + 1)
  else none

/-- Tries ever finer grids, `fuel` of them. -/
def shortestFrom (mantissa : Nat) (exponent : Int) : Nat → Int → Nat × Int
  | 0, t => (0, t)
  | fuel + 1, t =>
    match gridDigits? mantissa exponent t with
    | some digits => (digits, t)
    | none => shortestFrom mantissa exponent fuel (t - 1)

/-- Digits and decimal exponent; seventeen digits always suffice. -/
def shortest (mantissa : Nat) (exponent : Int) : Nat × Int :=
  shortestFrom mantissa exponent 17 (decimalExponent mantissa exponent)

end Stencil.Number
