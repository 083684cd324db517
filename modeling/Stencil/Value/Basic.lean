import Stencil.Calendar.Moment

/-!
The values that templates read: scalars, collections, maps, records, and nodes of tree-structured documents.
-/

namespace Stencil

/-- A document node wraps its descendants when they are read; a node of an embedding program's own kind hands them out
as they are. -/
inductive TreeKind where
  | document
  | embedded (name : String)
deriving DecidableEq

inductive RecordKind where
  | data
  | named
  | plain
  | slotted
deriving DecidableEq

inductive Value where
  | absent
  | bool (b : Bool)
  | int (n : Int)
  | float (x : Float)
  | text (s : String)
  | octets (bytes : List UInt8)
  | date (d : Calendar.Date)
  | moment (m : Calendar.Moment)
  | list (items : List Value)
  | tuple (items : List Value)
  | keys (items : List Value)
  | map (entries : List (Value × Value))
  | tree (kind : TreeKind) (raw : Value)
  | record (kind : RecordKind) (name : String) (fields : List (String × Value))

namespace Value

abbrev node (raw : Value) : Value := .tree .document raw

def isMap : Value → Bool
  | .map _ => true
  | _ => false

def isTree : Value → Bool
  | .tree .. => true
  | _ => false

def isNamedTuple : Value → Bool
  | .record .named .. => true
  | _ => false

def isRecord : Value → Bool
  | .record .. => true
  | _ => false

def isSequence : Value → Bool
  | .list _ => true
  | .tuple _ => true
  | _ => false

def isUnordered : Value → Bool
  | .keys _ => true
  | _ => false

def isList : Value → Bool
  | .list _ => true
  | _ => false

def isAbsent : Value → Bool
  | .absent => true
  | _ => false

/-- Whether a value counts as nothing: absence, zero, an empty text or an empty collection. -/
def isFalsy : Value → Bool
  | .absent => true
  | .bool b => !b
  | .int n => n == 0
  | .float x => x == 0
  | .text s => s.isEmpty
  | .octets bytes => bytes.isEmpty
  | .list items => items.isEmpty
  | .tuple items => items.isEmpty
  | .keys items => items.isEmpty
  | .map entries => entries.isEmpty
  | .record .named _ attributes => attributes.isEmpty
  | _ => false

/-- The whole number that a value equals when it is a whole number or a truth value. -/
def whole? : Value → Option Int
  | .bool b => some (if b then 1 else 0)
  | .int n => some n
  | _ => none

def lookup? : List (Value × Value) → String → Option Value
  | [], _ => none
  | (.text key, value) :: rest, name => if key = name then some value else lookup? rest name
  | _ :: rest, name => lookup? rest name

/-- The attribute of a record that outside readers see: its name is not empty and starts with no underscore. -/
def attribute? (fields : List (String × Value)) (name : String) : Option Value :=
  match name.toList with
  | [] => none
  | '_' :: _ => none
  | _ => fields.lookup name

/-- Absent for values that are no records. -/
def property : Value → String → Value
  | .record _ _ fields, name => (attribute? fields name).getD .absent
  | _, _ => .absent

/-- The element at a position, counted from the end where the position is negative. -/
def elementAt? (items : List Value) (index : Int) : Option Value :=
  if 0 ≤ index then items[index.toNat]?
  else if -(items.length : Int) ≤ index then items[(items.length + index).toNat]?
  else none

end Value

end Stencil
