import Stencil.Text.Split
import Stencil.Value.Number

/-!
Dotted paths into values. A step reads a map entry, a child or an element of a tree node, a public attribute of a
record, or an element of a sequence; what is missing is absent, and nothing is read from absence.
-/

namespace Stencil.Path

/-- The segments of a path; an empty path has none. -/
def split (path : String) : List String :=
  if path = "" then [] else (Text.splitChar '.' path.toList).map String.ofList

def stepInto (segment : String) (read : Int → Option Value) : Result Value := do
  match ← wholeOfText? segment with
  | some index => return (read index).getD .absent
  | none => return .absent

def step (v : Value) (segment : String) : Result Value :=
  match v with
  | .map entries => .ok ((Value.lookup? entries segment).getD .absent)
  | .tree kind raw =>
    if raw.isList then stepInto segment (Value.element? kind raw)
    else .ok ((Value.child? kind raw segment).getD .absent)
  | .record kind name fields => .ok ((Value.record kind name fields).property segment)
  | .list items => stepInto segment (Value.elementAt? items)
  | .tuple items => stepInto segment (Value.elementAt? items)
  | _ => .ok .absent

/-- Leaves found at the end are replaced by their host values. -/
def walk : Value → List String → Result Value
  | v, [] => .ok v.unwrap
  | .absent, _ :: _ => .ok .absent
  | v, segment :: rest => do walk (← step v segment) rest

def navigate (root : Value) (path : String) : Result Value := walk root (split path)

def describe (path : String) : String := "PathExpr(" ++ Text.quote path ++ ")"

end Stencil.Path
