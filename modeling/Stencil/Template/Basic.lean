import Stencil.Text.Blank

/-!
Templates: literal text and expressions in turn. An expression refers to a key and sends its value through pipes.
-/

namespace Stencil.Template

structure KeyRef where
  ns : Option String
  name : String
  path : Option String
deriving DecidableEq

structure PipeCall where
  name : String
  args : List String
deriving DecidableEq

structure Expression where
  key : KeyRef
  pipes : List PipeCall
  /-- What stands between the braces, as it was written. -/
  source : String
deriving DecidableEq

inductive Node where
  | literal (text : String)
  | expression (e : Expression)
deriving DecidableEq

end Stencil.Template

namespace Stencil

structure Template where
  nodes : List Template.Node
deriving DecidableEq

namespace Template

def KeyRef.canonical (k : KeyRef) : String :=
  let named := match k.ns with
    | some ns => ns ++ ":" ++ k.name
    | none => k.name
  match k.path with
  | some path => named ++ "." ++ path
  | none => named

def PipeCall.canonical (p : PipeCall) : String := String.intercalate ":" (p.name :: p.args)

def braced (body : String) : String := "$\x7b" ++ body ++ "\x7d"

/-- The one written form that equal expressions share. -/
def Expression.canonical (e : Expression) : String :=
  braced (String.intercalate "|" (e.key.canonical :: e.pipes.map PipeCall.canonical))

/-- An expression without a source is written in its canonical form. -/
def Expression.toSource (e : Expression) : String := if e.source = "" then e.canonical else braced e.source

/-- Expressions are alike whatever blanks their sources hold. -/
def Expression.alike (e f : Expression) : Bool := e.key = f.key && e.pipes = f.pipes

def Node.toSource : Node → String
  | .literal text => text
  | .expression e => e.toSource

def Node.alike : Node → Node → Bool
  | .literal a, .literal b => a = b
  | .expression e, .expression f => e.alike f
  | _, _ => false

def toSource (t : Template) : String := String.join (t.nodes.map Node.toSource)

def alikeNodes : List Node → List Node → Bool
  | [], [] => true
  | m :: ms, n :: ns => m.alike n && alikeNodes ms ns
  | _, _ => false

def alike (s t : Template) : Bool := alikeNodes s.nodes t.nodes

def expressions (t : Template) : List Expression :=
  t.nodes.filterMap fun
    | .expression e => some e
    | .literal _ => none

def single? (t : Template) : Option Expression :=
  match t.nodes with
  | [.expression e] => some e
  | _ => none

end Template

end Stencil
