import Stencil.Text.Hexadecimal
import Stencil.Text.Printable

/-!
Quoted texts: between apostrophes, or between double quotes when the text holds an apostrophe and no double quote.
Backslashes, the quote itself and characters that do not print are escaped.
-/

namespace Stencil.Text

def quoteFor (cs : List Char) : Char :=
  if '\x27' ∈ cs ∧ '"' ∉ cs then '"' else '\x27'

def escapeCommon? (mark c : Char) : Option (List Char) :=
  if c = mark ∨ c = '\\' then some ['\\', c]
  else if c = '\n' then some ['\\', 'n']
  else if c = '\r' then some ['\\', 'r']
  else if c = '\t' then some ['\\', 't']
  else none

def escapeChar (mark c : Char) : List Char :=
  match escapeCommon? mark c with
  | some e => e
  | none =>
    if isPrintable c then [c]
    else if c.toNat < 0x100 then '\\' :: 'x' :: hexDigits 2 c.toNat
    else if c.toNat < 0x10000 then '\\' :: 'u' :: hexDigits 4 c.toNat
    else '\\' :: 'U' :: hexDigits 8 c.toNat

def quoted (cs : List Char) : List Char :=
  let mark := quoteFor cs
  mark :: cs.flatMap (escapeChar mark) ++ [mark]

/-- Octets are shown by the ASCII characters that they stand for. -/
def quotedOctets (octets : List UInt8) : List Char :=
  let cs := octets.map fun o => Char.ofNat o.toNat
  let mark := quoteFor cs
  let escape c := match escapeCommon? mark c with
    | some e => e
    | none => if 0x20 ≤ c.toNat ∧ c.toNat < 0x7f then [c] else '\\' :: 'x' :: hexDigits 2 c.toNat
  'b' :: mark :: cs.flatMap escape ++ [mark]

def quote (s : String) : String := String.ofList (quoted s.toList)

end Stencil.Text
