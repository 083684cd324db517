import Stencil.Pipe.Basic
import Stencil.Text.Case
import Stencil.Text.Split

/-!
Pipes over texts; other values count by their texts.
-/

namespace Stencil.Pipe

def onText (f : List Char → List Char) : Pipe := fun _ v => do
  return .text (String.ofList (f (← v.toText).toList))

def upperCase : Pipe := onText Text.upper

def lowerCase : Pipe := onText Text.lower

def capitalize : Pipe := onText Text.capitalize

def trim : Pipe := onText Text.trim

/-- A comma unless the arguments say otherwise. -/
def separator (args : List Value) : Result String := if args.isEmpty then .ok "," else rejoin args

def split : Pipe := fun args v => do
  let separator ← separator args
  let text ← v.toText
  match Text.splitText? separator.toList text.toList with
  | some parts => return .list (parts.map fun part => .text (String.ofList part))
  | none => .error (.refused .emptySeparator)

/-- What is no collection is joined to nothing. -/
def join : Pipe := fun args v => do
  let separator ← separator args
  match v.unwrap.sequence? with
  | some items => return .text (String.intercalate separator (← Value.itemTexts items))
  | none => return .text (← v.toText)

def prepend : Pipe := fun args v => do
  let start ← rejoin args
  return .text (start ++ (← v.toText))

def append : Pipe := fun args v => do
  let text ← v.toText
  return .text (text ++ (← rejoin args))

end Stencil.Pipe
