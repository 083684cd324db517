import Stencil.Number.Binary

/-!
Exact comparison of whole numbers and floating-point numbers by the value that they stand for.
-/

namespace Stencil.Number

def ratio? (x : Float) : Option (Int × Nat) :=
  match Binary.ofFloat x with
  | .finite negative mantissa exponent =>
    let (n, d) := ratioOfBinary mantissa exponent
    some (if negative then -(n : Int) else n, d)
  | _ => none

def equalsWhole (x : Float) (n : Int) : Bool :=
  match ratio? x with
  | some (p, q) => p == n * q
  | none => false

def belowWhole (x : Float) (n : Int) : Bool :=
  match ratio? x with
  | some (p, q) => p < n * q
  | none => Binary.ofFloat x == .infinite true

def wholeBelow (n : Int) (x : Float) : Bool :=
  match ratio? x with
  | some (p, q) => n * q < p
  | none => Binary.ofFloat x == .infinite false

end Stencil.Number
