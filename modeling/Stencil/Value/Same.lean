import Stencil.Number.Compare
import Stencil.Value.Basic

/-!
Equality of values as documents compare: numbers by what they stand for whatever their kind, truth values as 0 and 1,
maps without regard to order.
-/

namespace Stencil.Value

def sameNumber : Value → Value → Bool
  | .float x, .float y => x == y
  | .float x, v => match v.whole? with
    | some n => Number.equalsWhole x n
    | none => false
  | v, .float y => match v.whole? with
    | some n => Number.equalsWhole y n
    | none => false
  | v, w => match v.whole?, w.whole? with
    | some m, some n => m == n
    | _, _ => false

mutual

def same : Value → Value → Bool
  | .absent, .absent => true
  | .bool a, w => sameNumber (.bool a) w
  | .int a, w => sameNumber (.int a) w
  | .float a, w => sameNumber (.float a) w
  | .text a, .text b => a == b
  | .octets a, .octets b => a == b
  | .date a, .date b => a == b
  | .moment a, .moment b => a == b
  | .list a, .list b => sameItems a b
  | .tuple a, .tuple b => sameItems a b
  | .keys a, .keys b => a.length == b.length && allWithin a b
  | .map a, .map b => a.length == b.length && sameEntries a b
  | .tree .document a, .tree .document b => same a b
  | .record ka na fa, .record kb nb fb => ka == kb && na == nb && sameFields fa fb
  | _, _ => false

def sameItems : List Value → List Value → Bool
  | [], [] => true
  | v :: vs, w :: ws => same v w && sameItems vs ws
  | _, _ => false

def allWithin : List Value → List Value → Bool
  | [], _ => true
  | v :: vs, ws => ws.any (fun w => same v w) && allWithin vs ws

/-- Every entry has an equal one on the other side. -/
def sameEntries : List (Value × Value) → List (Value × Value) → Bool
  | [], _ => true
  | (k, v) :: es, others => others.any (fun (l, w) => same k l && same v w) && sameEntries es others

def sameFields : List (String × Value) → List (String × Value) → Bool
  | [], [] => true
  | (a, v) :: fs, (b, w) :: gs => a == b && same v w && sameFields fs gs
  | _, _ => false

end

end Stencil.Value
