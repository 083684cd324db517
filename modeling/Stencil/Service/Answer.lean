import Stencil.Config.TemplateSet
import Stencil.Service.Target

namespace Stencil

structure Service where
  evaluator : Evaluator
  folder : Config.Folder

namespace Service

structure Request where
  method : String
  target : String
  body : Option String

structure Response where
  status : Nat
  body : Option Value

inductive Route where
  | eval
  | path
  | render (set : String)
  | health

def Route.method : Route → String
  | .health => "GET"
  | _ => "POST"

def routeOf? : List String → Option Route
  | ["eval"] => some .eval
  | ["path"] => some .path
  | ["health"] => some .health
  | ["render", set] => if set = "" then none else some (.render set)
  | _ => none

def withoutEmptyEnd (names : List String) : List String := (names.reverse.dropWhile (· = "")).reverse

/-- Slashes at the end of a path that has no route of its own are passed over. -/
def route? (target : String) : Option Route :=
  let names := namesOf target
  match routeOf? names with
  | some route => some route
  | none => routeOf? (withoutEmptyEnd names)

def object (entries : List (String × Value)) : Value := .map (entries.map fun (name, v) => (.text name, v))

def bare (status : Nat) : Response := ⟨status, none⟩

def refusal (status : Nat) (detail : String) : Response := ⟨status, some (object [("detail", .text detail)])⟩

/-- Faults of the request are told from missing configuration and from invalid configuration; what else goes wrong has
no words. -/
def failure : Error → Response
  | .malformed cause position template => refusal 400 (Error.malformed cause position template).message
  | .invalidQuery expression => refusal 400 (Error.invalidQuery expression).message
  | .unknownPipe name => refusal 400 (Error.unknownPipe name).message
  | .notFound kind name => refusal 404 (Error.notFound kind name).message
  | .cyclicDelegation chain => refusal 500 ("Invalid configuration: " ++ (Error.cyclicDelegation chain).message)
  | .refused cause => refusal 500 ("Invalid configuration: " ++ cause.message)
  | .malformedDocument fault line column position =>
    refusal 500 ("Invalid configuration: " ++ (Error.malformedDocument fault line column position).message)
  | _ => bare 500

mutual

/-- Whether a value has a document text that every reader takes: its numbers are finite and can be written. -/
def isPortable : Value → Bool
  | .float x => x.isFinite
  | .int n => (writeWhole n).toOption.isSome
  | .list items => arePortable items
  | .tuple items => arePortable items
  | .map entries => hasPortableEntries entries
  | _ => true

def arePortable : List Value → Bool
  | [] => true
  | v :: vs => isPortable v && arePortable vs

def hasPortableEntries : List (Value × Value) → Bool
  | [] => true
  | (_, v) :: es => isPortable v && hasPortableEntries es

end

def answer (outcome : Result Value) : Response :=
  match outcome with
  | .ok v => if isPortable v then ⟨200, some v⟩ else bare 500
  | .error e => failure e

/-- A byte order mark before a body means nothing. -/
def withoutMark (text : String) : String :=
  match text.toList with
  | c :: cs => if c.toNat = 0xfeff then String.ofList cs else text
  | [] => text

/-- The entries of a request's body, or the response to a body that has none. -/
def entriesOf (body : Option String) : Except Response (List (Value × Value)) :=
  match body with
  | none => .error (bare 422)
  | some text =>
    match Document.read (withoutMark text) with
    | .ok (.map entries) => .ok entries
    | .error (.refused _) => .error (refusal 400 "There was an error parsing the body")
    | _ => .error (bare 422)

def textField? (entries : List (Value × Value)) (name : String) : Option String :=
  match Value.lookup? entries name with
  | some (.text s) => some s
  | _ => none

def contextOf (entries : List (Value × Value)) : Value := Config.fieldOr .absent entries "context"

def result (v : Value) : Value := object [("result", v)]

def eval (s : Service) (entries : List (Value × Value)) : Response :=
  let keys := Config.fieldOr .absent entries "resolver"
  match textField? entries "template", keys with
  | some template, .text _ => answer (run template keys)
  | some template, .absent => answer (run template keys)
  | _, _ => bare 422
where
  run (template : String) (keys : Value) : Result Value := do
    let e ← s.folder.evaluator s.evaluator keys
    return result (← e.eval template (contextOf entries))

def follow (entries : List (Value × Value)) : Response :=
  match textField? entries "path" with
  | some path => answer do return result (← Evaluator.getPath path (contextOf entries))
  | none => bare 422

def render (s : Service) (set : String) (entries : List (Value × Value)) : Response :=
  answer do return .map (← s.folder.render s.evaluator set (contextOf entries))

def health : Response := ⟨200, some (object [("status", .text "healthy"), ("version", .text "1.0.0")])⟩

def handle (s : Service) (request : Request) : Response :=
  match route? request.target with
  | none => refusal 404 "Not Found"
  | some route =>
    if request.method ≠ route.method then bare 405
    else
      match route with
      | .health => health
      | .eval => onBody s.eval
      | .path => onBody follow
      | .render set => onBody (s.render set)
where
  onBody (use : List (Value × Value) → Response) : Response :=
    match entriesOf request.body with
    | .ok entries => use entries
    | .error response => response

end Service

end Stencil
