import Stencil.Keys.Resolver
import Stencil.Pipe.Registry
import Stencil.Query.Match
import Stencil.Template.Parser

/-!
Evaluation of templates in a context. A key is resolved, its path followed, and the value sent through the pipes; what
is not found is absent. A template that is one expression alone has the value of that expression, any other one is
rendered as text.
-/

namespace Stencil

structure Evaluator where
  resolver : Resolver
  registry : Registry

namespace Template

def PipeCall.apply (registry : Registry) (p : PipeCall) (v : Value) : Result Value :=
  registry.apply p.name (p.args.map Value.text) v

def applyAll (registry : Registry) : List PipeCall → Value → Result Value
  | [], v => .ok v
  | p :: ps, v => do applyAll registry ps (← p.apply registry v)

def pipeNames (t : Template) : List String := t.expressions.flatMap fun e => e.pipes.map PipeCall.name

end Template

namespace Evaluator

open Template

def standardAt (now : Calendar.Moment) : Evaluator := ⟨.fromContext, .standardAt now⟩

def standard (today : Calendar.Date) : Evaluator := ⟨.fromContext, .standard today⟩

/-- Reads a template and refuses it when it names a pipe that is not registered. -/
def parse (e : Evaluator) (source : String) : Result Template := do
  let t ← Template.parse source
  match t.pipeNames.find? fun name => !e.registry.has name with
  | some name => .error (.unknownPipe name)
  | none => .ok t

/-- A reference without a namespace means the default one. -/
def keyOf (e : Evaluator) (k : KeyRef) : Result Key :=
  match k.ns with
  | some ns => .ok (.ofText ns k.name)
  | none => do return ⟨← e.resolver.defaultNamespace.toLabel, .text k.name⟩

def lookUp (e : Evaluator) (key : Key) (context : Value) : Result Value :=
  match e.resolver.resolve key with
  | some h => h.call key context
  | none => .ok .absent

def follow (path : Option String) (v : Value) : Result Value :=
  match path with
  | some path => Path.navigate v path
  | none => .ok v

def evaluate (e : Evaluator) (context : Value) (x : Expression) : Result Value := do
  let found ← e.lookUp (← e.keyOf x.key) context
  let v ← applyAll e.registry x.pipes (← follow x.key.path found)
  return v.unwrap

def renderNode (e : Evaluator) (context : Value) : Node → Result String
  | .literal text => .ok text
  | .expression x => do (← e.evaluate context x).toText

def render (e : Evaluator) (context : Value) : List Node → Result String
  | [] => .ok ""
  | node :: nodes => do
    let text ← e.renderNode context node
    return text ++ (← e.render context nodes)

def execute (e : Evaluator) (t : Template) (context : Value) : Result Value :=
  match t.single? with
  | some x => e.evaluate context x
  | none => do return .text (← e.render context t.nodes)

def eval (e : Evaluator) (source : String) (context : Value) : Result Value := do
  e.execute (← e.parse source) context

/-- Finds the first match of a query, which starts with a dollar sign, or what a dotted path leads to. -/
def getPath (path : String) (context : Value) : Result Value :=
  match path.toList with
  | '$' :: _ => do return (← Query.evaluate path context).headD .absent
  | _ => Path.navigate context path

theorem getPath_of_dollar {path : String} {rest : List Char} (h : path.toList = '$' :: rest) (context : Value) :
    getPath path context = Query.evaluate path context >>= fun found => .ok (found.headD .absent) := by
  unfold getPath
  rw [h]
  rfl

theorem getPath_of_head {path : String} (h : path.toList.head? ≠ some '$') (context : Value) :
    getPath path context = Path.navigate context path := by
  rw [getPath]
  split
  · next rest hrest => exact absurd (by rw [hrest]; rfl) h
  · rfl

end Evaluator

end Stencil
