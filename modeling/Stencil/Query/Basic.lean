import Stencil.Query.Token

/-!
Queries and their reading. Of the operators that join two queries, those named later in `Joint` bind more tightly, and
equal ones group to the left; a bracket after a query applies to all of it.
-/

namespace Stencil

inductive Query where
  | root
  | this
  | parent
  | fields (names : List String)
  | index (positions : List Int)
  | slice (start stop step : Option Int)
  | descendants (left right : Query)
  | child (left right : Query)
  | either (left right : Query)
  | both (left right : Query)
  | having (left right : Query)
  | lacking (left right : Query)
deriving DecidableEq

namespace Query

inductive Joint where
  | descendants
  | child
  | either
  | both
  | having
  | lacking
deriving DecidableEq

def Joint.level : Joint → Nat
  | .descendants => 1
  | .child => 2
  | .either => 3
  | .both => 4
  | .having => 5
  | .lacking => 6

def Joint.apply : Joint → Query → Query → Query
  | .descendants => .descendants
  | .child => .child
  | .either => .either
  | .both => .both
  | .having => .having
  | .lacking => .lacking

/-- The parts of a query after names in a row and brackets are put together. -/
inductive Item where
  | operand (q : Query)
  | bracket (q : Query)
  | joint (j : Joint)
  | openGroup
  | closeGroup

/-- A number outside brackets names the fields that its characters spell one by one. -/
def digitFields (n : Int) : Query := .fields ((toString n).toList.map String.singleton)

def namesIn : List Token → Option (List String)
  | [.name s] => some [s]
  | .name s :: .comma :: rest => (namesIn rest).map (s :: ·)
  | _ => none

def numbersIn : List Token → Option (List Int)
  | [.number n] => some [n]
  | .number n :: .comma :: rest => (numbersIn rest).map (n :: ·)
  | _ => none

/-- The bounds between colons, each of which may be missing. -/
def boundsIn : List Token → Option (List (Option Int))
  | [] => some [none]
  | [.number n] => some [some n]
  | .colon :: rest => (boundsIn rest).map (none :: ·)
  | .number n :: .colon :: rest => (boundsIn rest).map (some n :: ·)
  | _ => none

def selection? (inside : List Token) : Option Query :=
  match inside with
  | [.any] => some (.slice none none none)
  | _ =>
    match namesIn inside, numbersIn inside, boundsIn inside with
    | some names, _, _ => some (.fields names)
    | _, some numbers, _ => some (.index numbers)
    | _, _, some [start, stop] => some (.slice start stop none)
    | _, _, some [start, stop, step] => some (.slice start stop step)
    | _, _, _ => none

/-- What the tokens read so far have left open. -/
inductive Pending where
  | nothing
  | names (seen : List String)
  | comma (seen : List String)
  | bracket (inside : List Token)

/-- What a token begins, or the item that it is. -/
def begin? : Token → Option (List Item × Pending)
  | .root => some ([.operand .root], .nothing)
  | .any => some ([.operand (.fields ["*"])], .nothing)
  | .number n => some ([.operand (digitFields n)], .nothing)
  | .relation s =>
    if s = "this" then some ([.operand .this], .nothing)
    else if s = "parent" then some ([.operand .parent], .nothing)
    else none
  | .dot => some ([.joint .child], .nothing)
  | .descend => some ([.joint .descendants], .nothing)
  | .either => some ([.joint .either], .nothing)
  | .both => some ([.joint .both], .nothing)
  | .having => some ([.joint .having], .nothing)
  | .lacking => some ([.joint .lacking], .nothing)
  | .openGroup => some ([.openGroup], .nothing)
  | .closeGroup => some ([.closeGroup], .nothing)
  | .name s => some ([], .names [s])
  | .openBracket => some ([], .bracket [])
  | .closeBracket => none
  | .comma => none
  | .colon => none

def itemsOf : Pending → List Token → Option (List Item)
  | .nothing, [] => some []
  | .names seen, [] => some [.operand (.fields seen)]
  | .nothing, token :: rest => do
    let (items, pending) ← begin? token
    return items ++ (← itemsOf pending rest)
  | .names seen, .comma :: rest => itemsOf (.comma seen) rest
  | .names seen, token :: rest => do
    let (items, pending) ← begin? token
    return .operand (.fields seen) :: items ++ (← itemsOf pending rest)
  | .comma seen, .name s :: rest => itemsOf (.names (seen ++ [s])) rest
  | .bracket inside, .closeBracket :: rest => do
    let q ← selection? inside.reverse
    return .bracket q :: (← itemsOf .nothing rest)
  | .bracket inside, token :: rest => itemsOf (.bracket (token :: inside)) rest
  | _, _ => none

inductive Frame where
  | left (q : Query) (j : Joint)
  | group

/-- Joins the query with those that wait for it, as long as their joints bind at least as tightly as `level`. -/
def reduce (level : Nat) : Query → List Frame → Query × List Frame
  | q, .left l j :: frames => if level ≤ j.level then reduce level (j.apply l q) frames else (q, .left l j :: frames)
  | q, frames => (q, frames)

/-- `current` is the query read last, nothing where one has to follow. -/
def assemble : List Frame → Option Query → List Item → Option Query
  | frames, some q, [] =>
    match reduce 0 q frames with
    | (q, []) => some q
    | _ => none
  | frames, none, .operand q :: rest => assemble frames (some q) rest
  | frames, none, .bracket q :: rest => assemble frames (some q) rest
  | frames, none, .openGroup :: rest => assemble (.group :: frames) none rest
  | frames, some q, .bracket selected :: rest =>
    let (whole, frames) := reduce 0 q frames
    assemble frames (some (.child whole selected)) rest
  | frames, some q, .joint j :: rest =>
    let (left, frames) := reduce j.level q frames
    assemble (.left left j :: frames) none rest
  | frames, some q, .closeGroup :: rest =>
    match reduce 0 q frames with
    | (q, .group :: frames) => assemble frames (some q) rest
    | _ => none
  | _, _, _ => none

def ofTokens? (tokens : List Token) : Option Query := do assemble [] none (← itemsOf .nothing tokens)

def parse? (expression : String) : Option Query := do ofTokens? (← scan expression.toList)

end Query

end Stencil
