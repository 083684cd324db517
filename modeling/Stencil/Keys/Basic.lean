import Stencil.Assoc
import Stencil.Number.Compare
import Stencil.Path
import Stencil.Value.Text

/-!
Keys name what a template refers to: a namespace and a name. A handler produces the value of a key in a context.
-/

namespace Stencil

/-- What a scalar that is no text stands for. Numbers are told apart by their values, whatever their kind, truth values
are the numbers 1 and 0, and there is one undefined number. -/
inductive Scalar where
  | absent
  | undefined
  | infinite (negative : Bool)
  | number (value : Rat)
deriving DecidableEq

def Scalar.ofFloat (x : Float) : Scalar :=
  match Number.ratio? x, Number.Binary.ofFloat x with
  | some (p, q), _ => .number (mkRat p q)
  | none, .infinite negative => .infinite negative
  | none, _ => .undefined

def Scalar.isFalsy : Scalar → Bool
  | .absent => true
  | .number value => value = 0
  | _ => false

/-- A namespace or a name. Configurations may give scalars that are no texts; such a label equals no text. -/
inductive Label where
  | text (s : String)
  | scalar (s : Scalar)
deriving DecidableEq

def Label.text? : Label → Option String
  | .text s => some s
  | .scalar _ => none

/-- Only scalars are labels. -/
def Value.toLabel : Value → Result Label
  | .text s => .ok (.text s)
  | .absent => .ok (.scalar .absent)
  | .bool b => .ok (.scalar (.number (if b then 1 else 0)))
  | .int n => .ok (.scalar (.number n))
  | .float x => .ok (.scalar (.ofFloat x))
  | _ => .error .wrongType

structure Key where
  ns : Label
  name : Label
deriving DecidableEq

namespace Key

def wildcardName : Label := .text "*"

def defaultNamespace : String := "field"

def ofText (ns name : String) : Key := ⟨.text ns, .text name⟩

def wildcard (k : Key) : Key := ⟨k.ns, wildcardName⟩

/-- A key of texts is shown as a template writes it. -/
def shown? (k : Key) : Option String := do return (← k.ns.text?) ++ ":" ++ (← k.name.text?)

end Key

inductive Handler where
  /-- The same value in every context. -/
  | const (v : Value)
  /-- The value that the key's name finds as a path in the context. -/
  | path
  | function (run : Key → Value → Result Value)

def Handler.call (h : Handler) (key : Key) (context : Value) : Result Value :=
  match h with
  | .const v => .ok v
  | .path =>
    match key.name with
    | .text name => Path.navigate context name
    -- What counts as nothing is a path without segments.
    | .scalar s => if s.isFalsy then Path.navigate context "" else .error .missingAttribute
  | .function run => run key context

def Handler.describe : Handler → Result String
  | .const v => do return "ConstKeyHandler(" ++ (← v.literal) ++ ")"
  | .path => .ok "PathKeyHandler()"
  | .function _ => .ok "FunctionKeyHandler"

/-- Bindings in the order in which their keys were first bound. -/
abbrev Bindings := List (Key × Handler)

namespace Bindings

/-- The handler bound to a key, else the one bound to the wildcard of its namespace. -/
def local? (bindings : Bindings) (key : Key) : Option Handler :=
  match bindings.lookup key with
  | some h => some h
  | none => bindings.lookup key.wildcard

end Bindings

end Stencil
