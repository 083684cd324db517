import Stencil.Number.Notation
import Stencil.Number.Rounding
import Stencil.Pipe.Basic

/-!
Pipes over numbers, which are read leniently; what is no number is passed over.
-/

namespace Stencil.Pipe

/-- The number that no other one beats; of equals the first. -/
def best? (beats : Float → Float → Bool) : List Float → Option Float
  | [] => none
  | x :: xs => some (xs.foldl (fun best y => if beats y best then y else best) x)

def greatest? : List Float → Option Float := best? fun x y => x > y

def least? : List Float → Option Float := best? fun x y => x < y

def total (xs : List Float) : Float := xs.foldl (· + ·) 0

/-- A number rounded to places after the point, where they are given. -/
def rounded (x : Float) : Option Int → Result Value
  | none => .ok (.float x)
  | some places =>
    match Number.roundTo? x places with
    | some y => .ok (.float y)
    | none => .error (.overflow .rounded)

def picked (pick? : List Float → Option Float) : Pipe := fun args v => do
  match pick? (← v.collectNumbers) with
  | some x => rounded x (← wholeArg? args 0)
  | none => return .absent

def maxNum : Pipe := picked greatest?

def minNum : Pipe := picked least?

def toNumber : Pipe := fun _ v => do
  match ← v.toNumber? with
  | some x => return .float x
  | none => return .absent

def round : Pipe := fun args v => do
  match ← v.toNumber? with
  | some x => rounded x (some ((← wholeArg? args 0).getD 0))
  | none => return .absent

def sum : Pipe := fun _ v => do return .float (total (← v.collectNumbers))

/-- Dollar signs in a text are passed over. -/
def withoutDollars : Value → Value
  | .text s => .text (String.ofList (s.toList.filter (· ≠ '$')))
  | v => v

def currency : Pipe := fun _ v => do
  match ← (withoutDollars v.unwrap).toNumber? with
  | some x => return .text ("$" ++ String.ofList (Number.writeAmount x))
  | none => return .absent

end Stencil.Pipe
