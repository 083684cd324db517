import Stencil.Path
import Stencil.Pipe.Basic

/-!
Pipes over collections. What cuts a collection cuts a text alike, by its characters. Counts and positions that are
negative count as zero.
-/

namespace Stencil

/-- What can be cut: the characters of a text or the elements of a collection. -/
inductive Run where
  | text (cs : List Char)
  | items (vs : List Value)

namespace Run

def length : Run → Nat
  | .text cs => cs.length
  | .items vs => vs.length

def toValue : Run → Value
  | .text cs => .text (String.ofList cs)
  | .items vs => .list vs

def cut (f : ∀ {α : Type}, List α → List α) : Run → Run
  | .text cs => .text (f cs)
  | .items vs => .items (f vs)

def first? : Run → Option Value
  | .text cs => cs.head?.map fun c => .text (String.singleton c)
  | .items vs => vs.head?

def last? : Run → Option Value
  | .text cs => cs.getLast?.map fun c => .text (String.singleton c)
  | .items vs => vs.getLast?

end Run

def Value.run? : Value → Option Run
  | .text s => some (.text s.toList)
  | v => v.sequence?.map .items

/-- The parts from `start` to `stop`, both included. -/
def between {α : Type} (start stop : Int) (xs : List α) : List α := (xs.take (stop + 1).toNat).drop start.toNat

def firstOf {α : Type} (count : Int) (xs : List α) : List α := xs.take count.toNat

def lastOf {α : Type} (count : Int) (xs : List α) : List α := xs.drop (xs.length - count.toNat)

def Value.isFielded : Value → Bool
  | .map _ => true
  | .record .. => true
  | .tree _ raw => raw.isMap
  | _ => false

/-- A path that is no text leads nowhere when it counts as nothing, and else cannot be walked. -/
def Path.navigateBy (root path : Value) : Result Value :=
  match path with
  | .text path => navigate root path
  | .octets bytes => if bytes.isEmpty then .ok root.unwrap else .error .wrongType
  | v => if v.isFalsy then .ok root.unwrap else .error .missingAttribute

namespace Pipe

def size : Pipe := fun _ v =>
  match v.unwrap with
  | .text s => .ok (.int s.length)
  | .map entries => .ok (.int entries.length)
  | .tree _ raw => .ok (.int (Value.nodeSize raw))
  | v =>
    match v.sequence? with
    | some items => .ok (.int items.length)
    | none => .ok .absent

def first : Pipe := fun _ v => .ok ((v.unwrap.run?.bind Run.first?).getD .absent)

def last : Pipe := fun _ v => .ok ((v.unwrap.run?.bind Run.last?).getD .absent)

def reversed : Pipe := fun _ v =>
  match v.unwrap.run? with
  | some run => .ok (run.cut List.reverse).toValue
  | none => .ok .absent

/-- Without a second argument the slice goes to the end. -/
def slice : Pipe := fun args v => do
  let start ← wholeArg? args 0
  match v.unwrap.run?, start with
  | some run, some start =>
    let stop ← if args.length ≤ 1 then pure (some ((run.length : Int) - 1)) else wholeArg? args 1
    match stop with
    | some stop => return (run.cut (between start stop)).toValue
    | none => return .absent
  | _, _ => return .absent

def take : Pipe := fun args v => do
  let count ← wholeArg? args 0
  match v.unwrap.run?, count with
  | some run, some count => return (run.cut (firstOf count)).toValue
  | _, _ => return .absent

def takeLast : Pipe := fun args v => do
  let count ← wholeArg? args 0
  match v.unwrap.run?, count with
  | some run, some count => return (run.cut (lastOf count)).toValue
  | _, _ => return .absent

def counted (f : Int → Run → Run) : Pipe := fun args v => do
  let count ← wholeArg? args 0
  match v.unwrap.run?, count with
  | some run, some count => return (f count run).toValue
  | _, _ => return .absent

theorem take_eq_counted : take = counted fun count => Run.cut (firstOf count) := rfl

theorem takeLast_eq_counted : takeLast = counted fun count => Run.cut (lastOf count) := rfl

/-- Whether an element has the field and the text of the field is the expected one. -/
def agrees (field : Value) (expected : String) (item : Value) : Result Bool := do
  if item.isFielded then
    let actual ← Path.navigateBy item field
    if actual.isAbsent then return false else return (← actual.toText) == expected
  else return false

def keep (field : Value) (expected : String) : List Value → Result (List Value)
  | [] => .ok []
  | item :: items => do
    let found ← agrees field expected item
    let others ← keep field expected items
    return if found then item :: others else others

def project (field : Value) : List Value → Result (List Value)
  | [] => .ok []
  | item :: items => do
    let found ← Path.navigateBy item field
    return found :: (← project field items)

/-- The arguments that name a field; absence names none. -/
def fieldArg? (args : List Value) : Option Value := args.head?.filter fun field => !field.isAbsent

def filter : Pipe := fun args v => do
  let expected ← rejoin args.tail
  match v.unwrap.sequence?, fieldArg? args with
  | some items, some field =>
    if args.tail.isEmpty then return .absent else return .list (← keep field expected items)
  | _, _ => return .absent

def map : Pipe := fun args v =>
  match v.unwrap.sequence?, fieldArg? args with
  | some items, some field => do return .list (← project field items)
  | _, _ => .ok .absent

end Pipe

end Stencil
