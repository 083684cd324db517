import Stencil.Text.Hexadecimal
import Stencil.Text.Split

/-!
The target of a request: a path, and perhaps a query or a fragment, which mean nothing here. Octets may be written as
two hexadecimal digits after a percent sign.
-/

namespace Stencil.Service

def octetsOf (c : Char) : List UInt8 := (String.singleton c).toUTF8.toList

def writtenOctet? (c d : Char) : Option UInt8 := do return UInt8.ofNat (16 * (← Text.hexValue? c) + (← Text.hexValue? d))

/-- The octets of a text, the ones that are written by their digits among them. -/
def decodeOctets : List Char → List UInt8
  | '%' :: c :: d :: cs =>
    match writtenOctet? c d with
    | some octet => octet :: decodeOctets cs
    | none => octetsOf '%' ++ decodeOctets (c :: d :: cs)
  | c :: cs => octetsOf c ++ decodeOctets cs
  | [] => []

/-- A text whose octets are no characters stays as it is written. -/
def decode (cs : List Char) : List Char :=
  match String.fromUTF8? (ByteArray.mk (decodeOctets cs).toArray) with
  | some s => s.toList
  | none => cs

/-- Steps to the same place and back are taken, the latest name comes first in `place`. -/
def takeSteps : List (List Char) → List (List Char) → List (List Char)
  | place, [] => place.reverse
  | place, name :: rest =>
    if name = ['.'] then takeSteps place rest
    else if name = ['.', '.'] then takeSteps place.tail rest
    else takeSteps (name :: place) rest

/-- The names of the path of a target, the slash before the first one dropped. -/
def namesOf (target : String) : List String :=
  let path := target.toList.takeWhile fun c => c ≠ '?' ∧ c ≠ '#'
  let path := match path with
    | '/' :: rest => rest
    | path => path
  let plain := Text.joinWith ['/'] (takeSteps [] (Text.splitChar '/' path))
  (Text.splitChar '/' (decode plain)).map String.ofList

end Stencil.Service
