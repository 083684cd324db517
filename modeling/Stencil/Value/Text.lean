import Stencil.Value.Literal

/-!
The text that a value contributes to a rendered template. Absence contributes nothing, collections show the texts of
their elements, document nodes their document text, and records their literal form.
-/

namespace Stencil.Value

def truthText (b : Bool) : String := if b then "true" else "false"

def branchText (kind : TreeKind) (raw : Value) : Result String :=
  match kind with
  | .document => Document.write raw
  | .embedded name => .ok (embeddedLiteral name raw)

mutual

def toText : Value → Result String
  | .absent => .ok ""
  | .bool b => .ok (truthText b)
  | .int n => writeWhole n
  | .float x => .ok (Number.showFloat x)
  | .text s => .ok s
  | .octets bytes => .ok (octetsLiteral bytes)
  | .date d => .ok d.text
  | .moment m => .ok m.text
  | .tree kind raw => if isLeaf raw then toText raw else branchText kind raw
  | .map entries => do return commaList "\x7b" "\x7d" (← entryTexts entries)
  | .list items => do return commaList "[" "]" (← itemTexts items)
  | .tuple items => do return commaList "[" "]" (← itemTexts items)
  | .keys items => do return commaList "[" "]" (← itemTexts items)
  | .record kind name fields => literal (.record kind name fields)

def itemTexts : List Value → Result (List String)
  | [] => .ok []
  | v :: vs => do return (← toText v) :: (← itemTexts vs)

def entryTexts : List (Value × Value) → Result (List String)
  | [] => .ok []
  | (k, v) :: es => do
    let key ← toText k
    let value ← toText v
    return (key ++ "=" ++ value) :: (← entryTexts es)

end

end Stencil.Value
