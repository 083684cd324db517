import Stencil.Value.Number
import Stencil.Value.Text

/-!
Pipes: functions that an expression sends its value through, with the arguments that are written after the name of the
pipe.
-/

namespace Stencil

abbrev Pipe := List Value → Value → Result Value

namespace Pipe

def passingAbsence (p : Pipe) : Pipe := fun args v => if v.isAbsent then .ok .absent else p args v

def wholeArg? (args : List Value) (index : Nat) : Result (Option Int) :=
  match args[index]? with
  | some v => v.toWhole?
  | none => .ok none

theorem wholeArg_texts (args : List String) (index : Nat) : wholeArg? (args.map .text) index =
    match args[index]? with
    | some s => wholeOfText? s
    | none => .ok none := by
  rw [wholeArg?, List.getElem?_map]
  cases args[index]? <;> rfl

def textsOf : List Value → Result (List String)
  | [] => .ok []
  | .text s :: vs => do return s :: (← textsOf vs)
  | _ :: _ => .error .wrongType

/-- The arguments as one text again, with the colons that part them. -/
def rejoin (args : List Value) : Result String := do return String.intercalate ":" (← textsOf args)

theorem textsOf_texts (args : List String) : textsOf (args.map Value.text) = .ok args := by
  induction args with
  | nil => rfl
  | cons arg args ih =>
    rw [List.map_cons, textsOf, ih]
    rfl

theorem rejoin_texts (args : List String) : rejoin (args.map Value.text) = .ok (String.intercalate ":" args) := by
  rw [rejoin, textsOf_texts]
  rfl

end Pipe

end Stencil
