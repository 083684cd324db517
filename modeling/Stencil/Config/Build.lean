import Stencil.Config.Folder
import Stencil.Keys.Workshop

/-!
Resolvers built from their definitions. A definition binds constants and paths in its namespace, and delegates to other
definitions by name and to built-in resolvers; definitions that delegate in a cycle are refused. Each definition is
built once, however many others delegate to it.
-/

namespace Stencil.Config

def fieldOr (other : Value) (definition : List (Value × Value)) (name : String) : Value :=
  (Value.lookup? definition name).getD other

/-- What a list names, or an object by its keys, or a text by its characters. -/
def members : Value → Result (List Value)
  | .list items => .ok items
  | .map entries => .ok (entries.map Prod.fst)
  | .text s => .ok (s.toList.map fun c => .text (String.singleton c))
  | _ => .error .wrongType

def bindAll (ns : Value) : List (Value × Handler) → Bindings → Result Bindings
  | [], bindings => .ok bindings
  | (name, h) :: rest, bindings => do
    let key := Key.mk (← ns.toLabel) (← name.toLabel)
    bindAll ns rest (Assoc.put key h bindings)

def constantsOf (definition : List (Value × Value)) : Result (List (Value × Handler)) :=
  match fieldOr (.map []) definition "constants" with
  | .map entries => .ok (entries.map fun (name, v) => (name, .const v))
  | _ => .error .missingAttribute

/-- A name that is both a constant and a path is a path. -/
def bindingsOf (definition : List (Value × Value)) : Result Bindings := do
  let ns := fieldOr (.text Key.defaultNamespace) definition "namespace"
  let constants ← bindAll ns (← constantsOf definition) []
  let paths ← members (fieldOr (.list []) definition "paths")
  bindAll ns (paths.map fun name => (name, .path)) constants

/-- Keys as they are spelled where they are bound first; equal keys may be spelled apart. -/
def spellAll (ns : Value) : List Value → List (Key × String) → Result (List (Key × String))
  | [], spelled => .ok spelled
  | name :: rest, spelled => do
    let key := Key.mk (← ns.toLabel) (← name.toLabel)
    if key ∈ spelled.map Prod.fst then spellAll ns rest spelled
    else do
      let text := (← ns.spelled) ++ ":" ++ (← name.spelled)
      spellAll ns rest (spelled ++ [(key, text)])

def spellingsOf (definition : List (Value × Value)) : Result (List (Key × String)) := do
  let ns := fieldOr (.text Key.defaultNamespace) definition "namespace"
  let constants ← spellAll ns ((← constantsOf definition).map Prod.fst) []
  spellAll ns (← members (fieldOr (.list []) definition "paths")) constants

def delegateNames (definition : List (Value × Value)) : Result (List Value) :=
  members (fieldOr (.list []) definition "delegates")

/-- Unknown built-in resolvers are passed over. -/
def builtInsAmong : List Value → Result (List Resolver)
  | [] => .ok []
  | name :: names => do
    let label ← name.toLabel
    let others ← builtInsAmong names
    return if label = .text "numbers" then .numbers :: others else others

def builtInsOf (definition : List (Value × Value)) : Result (List Resolver) := do
  builtInsAmong (← members (fieldOr (.list []) definition "builtin"))

def labelsAmong (names : List Value) : List Label := names.filterMap fun name => name.toLabel.toOption

def Folder.mentioned (f : Folder) : List Label :=
  f.files.flatMap fun (_, text) =>
    match Document.read (String.ofList (Folder.plainLines text.toList)) with
    | .ok (.map definition) => labelsAmong ((delegateNames definition).toOption.getD [])
    | _ => []

abbrev Built := List (Label × Resolver)

/-- Only texts can be shown in a chain. -/
def chainOf : List Label → Result (List String)
  | [] => .ok []
  | .text name :: rest => do return name :: (← chainOf rest)
  | .scalar _ :: _ => .error .wrongType

def refuseCycle (chain : List Label) : Result (Built × Resolver) := do .error (.cyclicDelegation (← chainOf chain))

/-- What a definition says on its own, before the resolvers that it delegates to are built. -/
structure Draft where
  definition : List (Value × Value)
  bindings : Bindings
  delegates : List Value

def Folder.draft (f : Folder) (name : Value) : Result Draft := do
  let definition ← f.load .keys (← name.spelled)
  return ⟨definition, ← bindingsOf definition, ← delegateNames definition⟩

def Draft.defaultNamespace (d : Draft) : Value := fieldOr (.text Key.defaultNamespace) d.definition "default_namespace"

/-- The workshop in which the built-in resolvers are made first and then those that are built. -/
def workshopOf (built : Built) : Workshop :=
  { Workshop.start with made := Workshop.start.made ++ (built.map Prod.snd).reverse }

/-- The resolver of a name, once its delegates are built; it is kept for the next one that asks. -/
def Draft.complete (d : Draft) (name : Label) (built : Built) (delegates : List Resolver) :
    Result (Built × Resolver) := do
  let builtIns ← builtInsOf d.definition
  let (_, r) ← (workshopOf built).make d.bindings (delegates ++ builtIns) d.defaultNamespace
  return ((name, r) :: built, r)

mutual

/-- Builds the resolver of a name. `building` are the names on the way to it, and `fresh` holds every other name that
can still come up. -/
def buildFrom (f : Folder) (fresh building : List Label) (built : Built) (name : Value) :
    Result (Built × Resolver) := do
  let label ← name.toLabel
  if label ∈ building then refuseCycle (building ++ [label])
  else
    match built.lookup label with
    | some r => .ok (built, r)
    | none =>
      if h : label ∈ fresh then do
        have := List.length_erase_of_mem h
        have := List.length_pos_of_mem h
        let d ← f.draft name
        let (built, delegates) ← buildEach f (fresh.erase label) (building ++ [label]) built d.delegates
        d.complete label built delegates
      else .error .unknownReference
termination_by (fresh.length, 0)
decreasing_by
  apply Prod.Lex.left
  omega

def buildEach (f : Folder) (fresh building : List Label) (built : Built) : List Value → Result (Built × List Resolver)
  | [] => .ok (built, [])
  | name :: names => do
    let (built, r) ← buildFrom f fresh building built name
    let (built, rs) ← buildEach f fresh building built names
    return (built, r :: rs)
termination_by names => (fresh.length, names.length + 1)

end

def Folder.namesFrom (f : Folder) (name : Value) : List Label := labelsAmong [name] ++ f.mentioned

def Folder.build (f : Folder) (name : Value) : Result Resolver := do
  return (← buildFrom f (f.namesFrom name) [] [] name).2

end Stencil.Config
