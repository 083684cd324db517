import Stencil.Error
import Stencil.Query.Basic
import Stencil.Value.Same

/-!
The matches of a query in a value, in document order. Only maps have fields and only lists and maps have descendants;
document nodes inside a value are not looked into.
-/

namespace Stencil.Query

/-- A value found in a document and, after it, the values that it was found in, the nearest first. The empty place is
what the outermost value lies in. -/
abbrev Place := List Value

def rootOf (p : Place) : Place :=
  match p.getLast? with
  | some v => [v]
  | none => [.absent]

def valueOf (p : Place) : Value := p.headD .absent

def place (p : Place) : Place := if p.isEmpty then [.absent] else p

/-- The elements that positions select, for values that have them. -/
def positions? : Value → Option (List Value)
  | .list items => some items
  | .tuple items => some items
  | .record .named _ attributes => some (attributes.map (·.2))
  | .text s => some (s.toList.map fun c => .text (String.singleton c))
  | .octets bytes => some (bytes.map fun b => .int b.toNat)
  | _ => none

def matchFields (names : List String) (p : Place) : List Place :=
  match valueOf p with
  | .map entries =>
    if "*" ∈ names then entries.map fun (_, v) => v :: place p
    else names.filterMap fun name => (Value.lookup? entries name).map (· :: place p)
  | _ => []

/-- A map is asked for the position as a key once it has more entries than that. -/
def matchPosition (v : Value) (position : Int) : Result (List Value) :=
  if Value.isFalsy v then .ok []
  else
    match v, positions? v with
    | _, some items =>
      if (items.length : Int) ≤ position then .ok []
      else
        match Value.elementAt? items position with
        | some item => .ok [item]
        | none => .error .outOfRange
    | .map entries, none =>
      if (entries.length : Int) ≤ position then .ok []
      else
        match entries.find? fun (k, _) => Value.same k (.int position) with
        | some (_, item) => .ok [item]
        | none => .error .missingEntry
    | .keys items, none => if (items.length : Int) ≤ position then .ok [] else .error .wrongType
    | _, none => .error .wrongType

def matchPositions (indices : List Int) (p : Place) : Result (List Place) := do
  let found ← indices.mapM (matchPosition (valueOf p))
  return found.flatten.map (· :: place p)

/-- The positions from `start` towards `stop` in steps, within a sequence of `length` elements. -/
def sliceRange (length : Nat) (start stop step : Option Int) : Option (List Nat) :=
  let step := step.getD 1
  if step = 0 then none
  else
    let lowest : Int := if 0 < step then 0 else -1
    let highest : Int := if 0 < step then length else length - 1
    let clamp (bound : Int) : Int :=
      if bound < 0 then max (bound + length) lowest else min bound highest
    let first := (start.map clamp).getD (if 0 < step then lowest else highest)
    let last := (stop.map clamp).getD (if 0 < step then highest else lowest)
    let count := if 0 < step then (last - first + step - 1) / step else (first - last - step - 1) / -step
    some ((List.range count.toNat).map fun (i : Nat) => (first + i * step).toNat)

/-- Maps, texts, whole numbers and truth values are sliced as lists of one. -/
def matchSlice (start stop step : Option Int) (p : Place) : Result (List Place) :=
  let v := valueOf p
  let select (items : List Value) (above : Place) : Result (List Place) :=
    match sliceRange items.length start stop step with
    | some range => .ok (range.filterMap fun i => items[i]?.map (· :: above))
    | none => .error (.refused .zeroStep)
  let alone : Result (List Place) := select [v] (.list [v] :: p.tail)
  if Value.isFalsy v then .ok []
  else
    match v with
    | .map _ => alone
    | .text _ => alone
    | .int _ => alone
    | .bool _ => alone
    | _ =>
      match positions? v with
      | some items => select items p
      | none => .error .wrongType

mutual

/-- The matches in a value and in all that it holds; `above` is what holds it. -/
def within (search : Place → Result (List Place)) : Value → Place → Result (List Place)
  | .list items, above => do
    let here ← search (.list items :: above)
    return here ++ (← withinItems search items (.list items :: above))
  | .map entries, above => do
    let here ← search (.map entries :: above)
    return here ++ (← withinEntries search entries (.map entries :: above))
  | v, above => search (v :: above)

def withinItems (search : Place → Result (List Place)) : List Value → Place → Result (List Place)
  | [], _ => .ok []
  | v :: vs, above => do
    let here ← within search v above
    return here ++ (← withinItems search vs above)

def withinEntries (search : Place → Result (List Place)) : List (Value × Value) → Place → Result (List Place)
  | [], _ => .ok []
  | (_, v) :: es, above => do
    let here ← within search v above
    return here ++ (← withinEntries search es above)

end

def withinPlace (search : Place → Result (List Place)) : Place → Result (List Place)
  | [] => do
    let _ ← search []
    .error .missingAttribute
  | v :: above => within search v above

def find : Query → Place → Result (List Place)
  | .root, p => .ok [rootOf p]
  | .this, p => .ok [place p]
  | .parent, p => .ok [p.tail]
  | .fields names, p => .ok (matchFields names p)
  | .index positions, p => matchPositions positions p
  | .slice start stop step, p => matchSlice start stop step p
  | .child left right, p => do return (← (← left.find p).mapM right.find).flatten
  | .descendants left right, p => do return (← (← left.find p).mapM (withinPlace right.find)).flatten
  | .having left right, p => do (← left.find p).filterM fun q => do return !(← right.find q).isEmpty
  | .lacking left right, p => do (← left.find p).filterM fun q => do return (← right.find q).isEmpty
  | .either left right, p => do return (← left.find p) ++ (← right.find p)
  | .both .., _ => .error .notSupported

/-- A place outside the document has no value. -/
def placeValue : Place → Result Value
  | v :: _ => .ok v
  | [] => .error .missingAttribute

/-- A document node is queried through its raw value. -/
def evaluate (expression : String) (data : Value) : Result (List Value) :=
  match parse? expression with
  | none => .error (.invalidQuery expression)
  | some q => do
    let root := match data with
      | .tree .document raw => raw
      | v => v
    (← q.find [root]).mapM placeValue

end Stencil.Query
