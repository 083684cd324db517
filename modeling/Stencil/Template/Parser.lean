import Stencil.Error
import Stencil.Template.Basic
import Stencil.Text.Split

/-!
Reading templates. An opening mark begins an expression, the next closing brace ends it, and no opening mark stands
between them. Within, vertical bars part the key reference and the pipes.
-/

namespace Stencil.Template

structure Fault where
  cause : Malformation
  position : Nat
deriving DecidableEq

abbrev Parsing := Except Fault

/-- The text before the first opening mark, and what follows the mark where there is one. -/
def beforeOpen : List Char → List Char × Option (List Char)
  | [] => ([], none)
  | '$' :: '{' :: rest => ([], some rest)
  | c :: rest =>
    let (text, after) := beforeOpen rest
    (c :: text, after)

/-- The body up to the closing brace and what follows it; nothing where it stays open or another one opens. -/
def body? : List Char → Option (List Char × List Char)
  | [] => none
  | '}' :: rest => some ([], rest)
  | '$' :: '{' :: _ => none
  | c :: rest => (body? rest).map fun (body, after) => (c :: body, after)

theorem length_of_beforeOpen {cs text after : List Char} (h : beforeOpen cs = (text, some after)) :
    after.length < cs.length := by
  fun_induction beforeOpen cs generalizing text after with
  | case1 => simp at h
  | case2 => cases h; simp only [List.length_cons]; omega
  | case3 c rest _ t a heq ih =>
    cases h
    have := ih heq
    simp only [List.length_cons]
    omega

theorem length_of_body {cs body after : List Char} (h : body? cs = some (body, after)) :
    after.length < cs.length := by
  fun_induction body? cs generalizing body after with
  | case1 => simp at h
  | case2 => cases h; simp
  | case3 => simp at h
  | case4 c rest _ _ ih =>
    obtain ⟨⟨b, a⟩, hb, he⟩ := Option.map_eq_some_iff.1 h
    cases he
    have := ih hb
    simp only [List.length_cons]
    omega

def textOf (cs : List Char) : String := String.ofList cs

def splitAtFirst? (mark : Char) (cs : List Char) : Option (List Char × List Char) :=
  match cs.dropWhile (· ≠ mark) with
  | [] => none
  | _ :: after => some (cs.takeWhile (· ≠ mark), after)

def nameAndPath (ns : Option (List Char)) (position : Nat) (cs : List Char) : Parsing KeyRef :=
  let (name, path) := (splitAtFirst? '.' cs).getD (cs, [])
  if name = [] then .error ⟨.missingName, position⟩
  else .ok ⟨ns.map textOf, textOf name, if path = [] then none else some (textOf path)⟩

/-- A key reference, with blanks around it and around its namespace. -/
def parseKey (position : Nat) (segment : List Char) : Parsing KeyRef :=
  let cs := Text.trim segment
  if cs = [] then .error ⟨.missingKey, position⟩
  else
    match splitAtFirst? ':' cs with
    | none => nameAndPath none position cs
    | some (before, after) =>
      let ns := Text.trim before
      if ns = [] then .error ⟨.emptyNamespace, position⟩ else nameAndPath (some ns) position (Text.trim after)

/-- A pipe's name and arguments; blanks count within arguments, save at the end of the last. -/
def parsePipe (position : Nat) (segment : List Char) : Parsing PipeCall :=
  match Text.splitChar ':' (Text.trim segment) with
  | [] => .error ⟨.missingPipe, position⟩
  | first :: args =>
    let name := Text.trim first
    if name = [] then .error ⟨.missingPipe, position⟩
    else if args.getLast? = some [] then .error ⟨.openArguments (textOf name), position⟩
    else .ok ⟨textOf name, args.map textOf⟩

/-- `position` is where the first segment stands. -/
def parsePipes : Nat → List (List Char) → Parsing (List PipeCall)
  | _, [] => .ok []
  | position, segment :: rest => do
    let pipe ← parsePipe position segment
    return pipe :: (← parsePipes (position + segment.length + 1) rest)

def parseBody (position : Nat) (body : List Char) : Parsing Expression :=
  match Text.splitChar '|' body with
  | [] => .error ⟨.missingKey, position⟩
  | first :: rest => do
    let key ← parseKey position first
    let pipes ← parsePipes (position + first.length + 1) rest
    return ⟨key, pipes, textOf body⟩

/-- Literals are never empty. -/
def literalNodes (text : List Char) : List Node := if text = [] then [] else [.literal (textOf text)]

/-- `position` counts the characters of the template before `cs`. -/
def parseFrom (position : Nat) (cs : List Char) : Parsing (List Node) :=
  match _ho : beforeOpen cs with
  | (text, none) => .ok (literalNodes text)
  | (text, some rest) =>
    let start := position + text.length
    match _hb : body? rest with
    | none => .error ⟨.unterminated, start⟩
    | some (body, after) => do
      let e ← parseBody (start + 2) body
      let nodes ← parseFrom (start + 2 + body.length + 1) after
      return literalNodes text ++ .expression e :: nodes
termination_by cs.length
decreasing_by
  have := length_of_beforeOpen _ho
  have := length_of_body _hb
  omega

def parse (template : String) : Result Template :=
  match parseFrom 0 template.toList with
  | .ok nodes => .ok ⟨nodes⟩
  | .error fault => .error (.malformed fault.cause fault.position template)

end Stencil.Template
