import Stencil.Document.Write
import Stencil.Value.Tree

/-!
The literal form of a value, which shows its kind: texts are quoted, collections have their brackets, records name
their fields.
-/

namespace Stencil.Value

def boolLiteral (b : Bool) : String := if b then "True" else "False"

def octetsLiteral (bytes : List UInt8) : String := String.ofList (Text.quotedOctets bytes)

def call (name : String) (arguments : List String) : String :=
  name ++ "(" ++ String.intercalate ", " arguments ++ ")"

def dateLiteral (d : Calendar.Date) : String :=
  call "datetime.date" ([d.year, d.month, d.day].map toString)

/-- A span of microseconds counted in whole days, and the seconds and microseconds left over. -/
def spanLiteral (microseconds : Int) : String :=
  let parts := [("days", microseconds / 86400000000), ("seconds", microseconds / 1000000 % 86400),
    ("microseconds", microseconds % 1000000)]
  call "datetime.timedelta"
    ((parts.filter fun (_, n) => n ≠ 0).map fun (unit, n) => unit ++ "=" ++ toString n)

def zoneLiteral (z : Calendar.Zone) : String :=
  if z.offset = 0 then "datetime.timezone.utc" else call "datetime.timezone" [spanLiteral z.offset]

/-- Seconds are shown unless they and the microseconds are zero. -/
def momentLiteral (m : Calendar.Moment) : String :=
  let seconds :=
    if m.microsecond ≠ 0 then [m.second, m.microsecond] else if m.second ≠ 0 then [m.second] else []
  let numbers := [m.date.year, m.date.month, m.date.day, m.hour, m.minute] ++ seconds
  let zone := match m.zone with
    | some z => ["tzinfo=" ++ zoneLiteral z]
    | none => []
  call "datetime.datetime" (numbers.map toString ++ zone)

/-- A node of an embedding program's own kind is shown by its kind and size. -/
def embeddedLiteral (name : String) (raw : Value) : String := name ++ "/" ++ toString (nodeSize raw)

def commaList (opening closing : String) (items : List String) : String :=
  opening ++ String.intercalate ", " items ++ closing

mutual

def literal : Value → Result String
  | .absent => .ok "None"
  | .bool b => .ok (boolLiteral b)
  | .int n => writeWhole n
  | .float x => .ok (Number.showFloat x)
  | .text s => .ok (Text.quote s)
  | .octets bytes => .ok (octetsLiteral bytes)
  | .date d => .ok (dateLiteral d)
  | .moment m => .ok (momentLiteral m)
  | .list items => do return commaList "[" "]" (← literalItems items)
  | .tuple [item] => do return "(" ++ (← literal item) ++ ",)"
  | .tuple items => do return commaList "(" ")" (← literalItems items)
  | .keys items => do return commaList "dict_keys([" "])" (← literalItems items)
  | .map entries => do return commaList "\x7b" "\x7d" (← literalEntries entries)
  | .tree .document raw => do return "JsonNode(" ++ (← Document.write raw) ++ ")"
  | .tree (.embedded name) raw => .ok (embeddedLiteral name raw)
  | .record .plain name _ => .ok ("<" ++ name ++ ">")
  | .record .slotted name _ => .ok ("<" ++ name ++ ">")
  | .record _ name fields => do return call name (← literalFields fields)

def literalItems : List Value → Result (List String)
  | [] => .ok []
  | v :: vs => do return (← literal v) :: (← literalItems vs)

def literalEntries : List (Value × Value) → Result (List String)
  | [] => .ok []
  | (k, v) :: es => do
    let key ← literal k
    let value ← literal v
    return (key ++ ": " ++ value) :: (← literalEntries es)

def literalFields : List (String × Value) → Result (List String)
  | [] => .ok []
  | (name, v) :: fs => do return (name ++ "=" ++ (← literal v)) :: (← literalFields fs)

end

/-- A text as it is, and any other value in its literal form. -/
def spelled : Value → Result String
  | .text s => .ok s
  | v => v.literal

end Stencil.Value
