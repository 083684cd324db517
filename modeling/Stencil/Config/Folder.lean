import Stencil.Assoc
import Stencil.Document.Read
import Stencil.Text.Split

/-!
A folder of configuration files: `keys/<name>.json` defines the resolver of that name and `templates/<name>.json` the
set of templates. A name may lead through other folders, as long as these exist.
-/

namespace Stencil.Config

/-- The files of the folder by the names on the way to them. -/
structure Folder where
  files : List (List String × String)

def componentsOf (path : String) : List String := (Text.splitChar '/' path.toList).map String.ofList

namespace Folder

/-- Keys and template sets have their folders even where no file is in them. -/
def hasFolder (f : Folder) (place : List String) : Bool :=
  place = [] || place = ["keys"] || place = ["templates"] ||
    f.files.any fun (path, _) => place.isPrefixOf path && place.length < path.length

/-- Where a path leads from a place, whose latest name comes first. Nothing is above the folder itself, and a step back
starts from a folder. -/
def walk (f : Folder) : List String → List String → Option (List String)
  | place, [] => some place.reverse
  | place, "" :: rest => f.walk place rest
  | place, "." :: rest => f.walk place rest
  | [], ".." :: _ => none
  | last :: place, ".." :: rest => if f.hasFolder (last :: place).reverse then f.walk place rest else none
  | place, name :: rest => f.walk (name :: place) rest

/-- Line ends are read as line feeds. -/
def plainLines : List Char → List Char
  | [] => []
  | '\r' :: '\n' :: cs => '\n' :: plainLines cs
  | '\r' :: cs => '\n' :: plainLines cs
  | c :: cs => c :: plainLines cs

def read? (f : Folder) (path : String) : Option String := do
  let place ← f.walk [] (componentsOf path)
  let text ← f.files.lookup place
  return String.ofList (plainLines text.toList)

def write (f : Folder) (path text : String) : Folder :=
  ⟨Assoc.put ((componentsOf path).filter fun name => name ≠ "" ∧ name ≠ ".") text f.files⟩

def ofList (files : List (String × String)) : Folder := files.foldl (fun f (path, text) => f.write path text) ⟨[]⟩

end Folder

def subfolder : ConfigKind → String
  | .keys => "keys"
  | .templateSet => "templates"

/-- The path of a configuration file; a name that starts at the root leads out of the folder. -/
def pathOf? (kind : ConfigKind) (name : String) : Option String :=
  match name.toList with
  | '/' :: _ => none
  | _ => some (subfolder kind ++ "/" ++ name ++ ".json")

def Folder.load (f : Folder) (kind : ConfigKind) (name : String) : Result (List (Value × Value)) := do
  match (pathOf? kind name).bind f.read? with
  | none => .error (.notFound kind name)
  | some text =>
    match ← Document.read text with
    | .map entries => return entries
    | _ => .error (.refused (.notAnObject kind name))

end Stencil.Config
