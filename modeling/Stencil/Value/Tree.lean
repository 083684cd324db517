import Stencil.Value.Basic

namespace Stencil.Value

/-- What a node hands out when the descendant `v` is read. -/
def wrapAs : TreeKind → Value → Value
  | .document, v => node v
  | .embedded _, v => v

def nodeSize : Value → Nat
  | .list items => items.length
  | .map entries => entries.length
  | _ => 0

def isLeaf : Value → Bool
  | .list _ => false
  | .map _ => false
  | _ => true

def child? (kind : TreeKind) (raw : Value) (name : String) : Option Value :=
  match raw with
  | .map entries => (lookup? entries name).map (wrapAs kind)
  | _ => none

/-- Only documents count from the end. -/
def element? (kind : TreeKind) (raw : Value) (index : Int) : Option Value :=
  match raw with
  | .list items =>
    match kind with
    | .document => (elementAt? items index).map node
    | .embedded _ => if 0 ≤ index then items[index.toNat]? else none
  | _ => none

def elements (kind : TreeKind) (raw : Value) : List Value :=
  (List.range (nodeSize raw)).map fun (i : Nat) => (element? kind raw i).getD .absent

/-- The scalar that a node stands for; an embedding program's own node hands out whatever it holds. -/
def scalarOf (kind : TreeKind) (raw : Value) : Value :=
  match kind with
  | .document => if isLeaf raw then raw else .absent
  | .embedded _ => raw

/-- Replaces a leaf by its host value; other values pass. -/
def unwrap : Value → Value
  | .tree kind raw => if isLeaf raw then raw else .tree kind raw
  | v => v

/-- The ordered view of a collection; text and scalars are none. -/
def sequence? : Value → Option (List Value)
  | .list items => some items
  | .tuple items => some items
  | .keys items => some items
  | .tree kind (.list items) => some (items.map fun v => unwrap (wrapAs kind v))
  | _ => none

end Stencil.Value
