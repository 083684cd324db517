import Stencil.Error
import Stencil.Number.Lenient
import Stencil.Text.Split
import Stencil.Value.Tree

namespace Stencil

def Number.WholeFault.refusal : Number.WholeFault → Refusal
  | .notWhole text => .notWhole text
  | .tooManyDigits count => .tooManyDigits count

def wholeOfText? (s : String) : Result (Option Int) :=
  match Number.readWhole s with
  | .ok n => .ok n
  | .error fault => .error (.refused fault.refusal)

namespace Value

/-- A position or a count; truth values and fractions are none. -/
def toWhole? : Value → Result (Option Int)
  | .int n => .ok (some n)
  | .text s => wholeOfText? s
  | _ => .ok none

def parseNumber? : Value → Option Float
  | .text s => Number.readLenient? s
  | _ => none

/-- The number that a host value stands for; truth values stand for none. -/
def hostNumber? : Value → Result (Option Float)
  | .int n =>
    match Number.ofInt? n with
    | some x => .ok (some x)
    | none => .error (.overflow .wholeNumber)
  | .float x => .ok (some x)
  | v => .ok v.parseNumber?

def toNumber? (v : Value) : Result (Option Float) := hostNumber? v.unwrap

/-- The numbers among values, those that are none skipped. -/
def numbersOf : List Value → Result (List Float)
  | [] => .ok []
  | v :: vs => do
    let x ← v.toNumber?
    let xs ← numbersOf vs
    return match x with
      | some x => x :: xs
      | none => xs

/-- What number pipes read: a collection's elements, the parts of a text between commas, or the value alone. -/
def numberSources : Value → List Value
  | .absent => []
  | .text s => (Text.splitChar ',' s.toList).map fun part => .text (String.ofList part)
  | v => v.sequence?.getD [v]

def collectNumbers (v : Value) : Result (List Float) := numbersOf (numberSources v.unwrap)

end Value

end Stencil
