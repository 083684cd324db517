import Stencil.Error
import Stencil.Number.Compare
import Stencil.Number.Notation
import Stencil.Value.Basic

/-!
Writing document texts in ASCII. Keys are texts, or numbers and words written as texts; a value that documents do not
know is refused.
-/

namespace Stencil

/-- A whole number in decimal digits, refused where it is too long to be read again. -/
def writeWhole (n : Int) : Result String :=
  let digits := Number.digitsOf n.natAbs
  if 4300 < digits.length then .error (.refused .tooManyDigitsToWrite)
  else .ok (String.ofList (Number.signOf (n < 0) ++ digits))

namespace Document

def unitEscape (n : Nat) : List Char := '\\' :: 'u' :: Text.hexDigits 4 n

def escapeChar (c : Char) : List Char :=
  if c = '"' ∨ c = '\\' then ['\\', c]
  else if c = '\n' then ['\\', 'n']
  else if c = '\r' then ['\\', 'r']
  else if c = '\t' then ['\\', 't']
  else if c.toNat = 8 then ['\\', 'b']
  else if c.toNat = 12 then ['\\', 'f']
  else if 0x20 ≤ c.toNat ∧ c.toNat < 0x7f then [c]
  else if c.toNat < 0x10000 then unitEscape c.toNat
  else
    let n := c.toNat - 0x10000
    unitEscape (0xd800 + n / 0x400) ++ unitEscape (0xdc00 + n % 0x400)

def writeText (s : String) : String := String.ofList ('"' :: s.toList.flatMap escapeChar ++ ['"'])

def writeFloat (x : Float) : String := String.ofList (Number.documentNotation.write x)

def writeBool (b : Bool) : String := if b then "true" else "false"

def keyText : Value → Result String
  | .text s => .ok s
  | .float x => .ok (writeFloat x)
  | .bool b => .ok (writeBool b)
  | .absent => .ok "null"
  | .int n => writeWhole n
  | _ => .error .wrongType

/-- Whether one key comes before another; texts and numbers have no common order. -/
def keyBelow? : Value → Value → Option Bool
  | .text a, .text b => some (a < b)
  | .float a, .float b => some (a < b)
  | .float a, w => w.whole?.map fun n => Number.belowWhole a n
  | v, .float b => v.whole?.map fun n => Number.wholeBelow n b
  | v, w => match v.whole?, w.whole? with
    | some m, some n => some (m < n)
    | _, _ => none

/-- Keys in ascending order; stable, as equal keys keep their places. -/
def insertEntry (entry : Value × Value) : List (Value × Value) → Option (List (Value × Value))
  | [] => some [entry]
  | other :: rest => do
    if ← keyBelow? other.1 entry.1 then return other :: (← insertEntry entry rest)
    else return entry :: other :: rest

/-- Refused where two keys have no order; one key alone needs none. -/
def sortEntries : List (Value × Value) → Option (List (Value × Value))
  | [] => some []
  | [entry] => some [entry]
  | entry :: rest => do insertEntry entry (← sortEntries rest)

mutual

def write : Value → Result String
  | .absent => .ok "null"
  | .bool b => .ok (writeBool b)
  | .int n => writeWhole n
  | .float x => .ok (writeFloat x)
  | .text s => .ok (writeText s)
  | .list items => do
    return "[" ++ String.intercalate ", " (← writeItems items) ++ "]"
  | .tuple items => do
    return "[" ++ String.intercalate ", " (← writeItems items) ++ "]"
  | .map entries => do
    return "\x7b" ++ String.intercalate ", " (← writeEntries entries) ++ "\x7d"
  | .record .named _ fields => do
    return "[" ++ String.intercalate ", " (← writeFields fields) ++ "]"
  | _ => .error .wrongType

def writeItems : List Value → Result (List String)
  | [] => .ok []
  | v :: vs => do return (← write v) :: (← writeItems vs)

def writeEntries : List (Value × Value) → Result (List String)
  | [] => .ok []
  | (k, v) :: es => do
    let key ← keyText k
    let value ← write v
    return (writeText key ++ ": " ++ value) :: (← writeEntries es)

def writeFields : List (String × Value) → Result (List String)
  | [] => .ok []
  | (_, v) :: fs => do return (← write v) :: (← writeFields fs)

end

mutual

def sorted : Value → Result Value
  | .list items => do return .list (← sortedItems items)
  | .tuple items => do return .list (← sortedItems items)
  | .map entries => do
    match sortEntries (← sortedEntries entries) with
    | some es => return .map es
    | none => .error .wrongType
  | .record .named _ fields => do return .list (← sortedFields fields)
  | v => .ok v

def sortedItems : List Value → Result (List Value)
  | [] => .ok []
  | v :: vs => do return (← sorted v) :: (← sortedItems vs)

def sortedEntries : List (Value × Value) → Result (List (Value × Value))
  | [] => .ok []
  | (k, v) :: es => do return (k, ← sorted v) :: (← sortedEntries es)

def sortedFields : List (String × Value) → Result (List Value)
  | [] => .ok []
  | (_, v) :: fs => do return (← sorted v) :: (← sortedFields fs)

end

/-- The text that decides the hash of a document: its keys are in order. -/
def fingerprint (v : Value) : Result String := do write (← sorted v)

end Document

end Stencil
