import Stencil.Keys.Delegation
import Stencil.Keys.Resolver

/-!
A workshop makes resolvers and keeps them by name. A foreign resolver delegates to names, which are looked up whenever
its delegates are asked for, so only it can be part of a cycle; a resolver whose making closes or reaches a cycle is
refused.
-/

namespace Stencil

structure Workshop where
  /-- Every resolver that was made, the one of identity `i` in place `i`. -/
  made : List Resolver
  /-- The latest meaning of a name comes first. -/
  names : List (String × Resolver)
  /-- The names that a foreign resolver delegates to, by its identity. -/
  references : List (Nat × List String)

namespace Workshop

def start : Workshop :=
  ⟨[Resolver.numbers, Resolver.fromContext], [("numbers", .numbers), ("default", .fromContext)], []⟩

def find? (w : Workshop) (name : String) : Option Resolver := w.names.lookup name

def nextId (w : Workshop) : Nat := w.made.length

def keep (w : Workshop) (name : String) (r : Resolver) : Workshop := { w with names := (name, r) :: w.names }

def referencesOf (w : Workshop) (id : Nat) : List String := (w.references.lookup id).getD []

/-- The identity behind a name; a name without meaning gets one that no resolver has. -/
def idOf (w : Workshop) (name : String) : Nat :=
  match w.find? name with
  | some r => r.id
  | none => w.nextId

def delegatesOf (w : Workshop) (id : Nat) : List Nat :=
  match w.made[id]? with
  | some (.bound _ _ delegates _) => delegates.map Resolver.id
  | some (.foreign ..) => (w.referencesOf id).map w.idOf
  | none => []

def describeId (w : Workshop) (id : Nat) : String :=
  match w.made[id]? with
  | some r => r.describe
  | none => ""

/-- The chain of a cycle, or one that ends in a name without meaning. -/
def cycle? (w : Workshop) (start : Nat) : Option (List Nat) :=
  Delegation.cycle? w.delegatesOf (List.range w.made.length) start

/-- Takes in a resolver of identity `nextId`. -/
def takeIn (w : Workshop) (r : Resolver) : Result Workshop :=
  let grown := { w with made := w.made ++ [r] }
  match grown.cycle? r.id with
  | some chain =>
    if grown.nextId ∈ chain then .error .unknownReference
    else .error (.cyclicDelegation (chain.map grown.describeId))
  | none => .ok grown

def make (w : Workshop) (bindings : Bindings) (delegates : List Resolver) (defaultNamespace : Value) :
    Result (Workshop × Resolver) := do
  let r := .bound w.nextId bindings delegates defaultNamespace
  return (← w.takeIn r, r)

def addKey (w : Workshop) (r : Resolver) (key : Key) (h : Handler) : Result (Workshop × Resolver) := do
  match r with
  | .foreign .. => .error .missingAttribute
  | .bound .. =>
    let r := r.withKey w.nextId key h
    return (← w.takeIn r, r)

def addDelegate (w : Workshop) (r other : Resolver) : Result (Workshop × Resolver) := do
  match r with
  | .foreign .. => .error .missingAttribute
  | .bound .. =>
    let r := r.withDelegate w.nextId other
    return (← w.takeIn r, r)

/-- A foreign resolver is not checked when it is made; one that is made here finds nothing. -/
def makeForeign (w : Workshop) (label : String) (references : List String) : Workshop × Resolver :=
  let r := .foreign w.nextId label (fun _ => none) (.text Key.defaultNamespace)
  ({ w with made := w.made ++ [r], references := (w.nextId, references) :: w.references }, r)

end Workshop

end Stencil
