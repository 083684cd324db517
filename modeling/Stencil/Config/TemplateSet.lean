import Stencil.Config.Build
import Stencil.Evaluator

namespace Stencil.Config

structure TemplateSet where
  templates : List (Value × Value)
  /-- The name of the resolver to render with. -/
  keys : Value

def Folder.templateSet (f : Folder) (name : String) : Result TemplateSet := do
  let config ← f.load .templateSet name
  match fieldOr .absent config "templates" with
  | .map templates => return ⟨templates, fieldOr .absent config "keys"⟩
  | _ => .error (.refused (.missingTemplates name))

/-- A name that counts as nothing leaves the evaluator as it is. -/
def Folder.evaluator (f : Folder) (e : Evaluator) (keys : Value) : Result Evaluator :=
  if keys.isFalsy then .ok e else do return { e with resolver := ← f.build keys }

/-- What stands in place of a template must be a text or hold nothing. -/
def sourceOf : Value → Result String
  | .text source => .ok source
  | .list [] => .ok ""
  | .map [] => .ok ""
  | .list _ => .error .missingAttribute
  | .map _ => .error .missingAttribute
  | _ => .error .wrongType

def renderEach (e : Evaluator) (context : Value) : List (Value × Value) → Result (List (Value × Value))
  | [] => .ok []
  | (field, template) :: rest => do
    let v ← e.eval (← sourceOf template) context
    return (field, v) :: (← renderEach e context rest)

def Folder.render (f : Folder) (e : Evaluator) (name : String) (context : Value) : Result (List (Value × Value)) := do
  let set ← f.templateSet name
  renderEach (← f.evaluator e set.keys) context set.templates

end Stencil.Config
