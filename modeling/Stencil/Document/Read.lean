import Stencil.Error
import Stencil.Number.Lenient
import Stencil.Value.Basic

/-!
Reading document texts: objects, arrays, strings, numbers and the three words, and besides them the words for the
numbers that decimals cannot write. A number with a point or an exponent is a floating-point number, any other a whole
number. A repeated key keeps its first place and its last value.
-/

namespace Stencil.Document

/-- Why reading stopped, and before which character of the text. -/
inductive Stop where
  | fault (cause : DocumentFault) (position : Nat)
  | tooManyDigits (count : Nat)

/-- The unread characters and the number of those before them. -/
structure Cursor where
  position : Nat
  rest : List Char

namespace Cursor

def advance (c : Cursor) (count : Nat) : Cursor := ⟨c.position + count, c.rest.drop count⟩

def isSpace (c : Char) : Bool := c = ' ' || c = '\t' || c = '\n' || c = '\r'

def skipSpace (c : Cursor) : Cursor := c.advance (c.rest.takeWhile isSpace).length

end Cursor

def fail {α : Type} (cause : DocumentFault) (position : Nat) : Except Stop α := .error (.fault cause position)

/-- The code unit that four hexadecimal digits write, after which the text must go on. -/
def codeUnit? : List Char → Option Nat
  | a :: b :: c :: d :: _ :: _ => do
    let a ← Text.hexValue? a
    let b ← Text.hexValue? b
    let c ← Text.hexValue? c
    let d ← Text.hexValue? d
    return ((a * 16 + b) * 16 + c) * 16 + d
  | _ => none

def isHighUnit (n : Nat) : Bool := 0xd800 ≤ n && n < 0xdc00

def isLowUnit (n : Nat) : Bool := 0xdc00 ≤ n && n < 0xe000

/-- A lone half of a pair stands for no character. -/
def charOfUnit (n : Nat) : Char :=
  if isHighUnit n || isLowUnit n then Char.ofNat 0xfffd else Char.ofNat n

def simpleEscape? : Char → Option Char
  | '"' => some '"'
  | '\\' => some '\\'
  | '/' => some '/'
  | 'b' => some (Char.ofNat 8)
  | 'f' => some (Char.ofNat 12)
  | 'n' => some '\n'
  | 'r' => some '\r'
  | 't' => some '\t'
  | _ => none

/-- The character of an escape `\uXXXX`, or of two that make a pair, and how many characters they take after the
backslash. -/
def escapedUnit? (digits : List Char) : Option (Char × Nat) := do
  let high ← codeUnit? digits
  if isHighUnit high then
    match digits.drop 4 with
    | '\\' :: 'u' :: more =>
      match codeUnit? more with
      | some low =>
        if isLowUnit low then return (Char.ofNat (0x10000 + (high - 0xd800) * 0x400 + (low - 0xdc00)), 11)
        else return (charOfUnit high, 5)
      | none => return (charOfUnit high, 5)
    | _ => return (charOfUnit high, 5)
  else return (charOfUnit high, 5)

/-- The characters of a string after its opening quote, which stands at `start`. Each step uses up a character, so the
text's length is fuel enough. -/
def readString (start : Nat) : Nat → Cursor → List Char → Except Stop (String × Cursor)
  | 0, _, _ => fail .openString start
  | fuel + 1, ⟨position, rest⟩, seen =>
    match rest with
    | [] => fail .openString start
    | '"' :: rest => .ok (String.ofList seen.reverse, ⟨position + 1, rest⟩)
    | '\\' :: rest =>
      match rest with
      | [] => fail .openString start
      | 'u' :: digits =>
        match escapedUnit? digits with
        | some (c, count) => readString start fuel ⟨position + 1 + count, rest.drop count⟩ (c :: seen)
        | none => fail .badCodePoint (position + 1)
      | e :: rest =>
        match simpleEscape? e with
        | some c => readString start fuel ⟨position + 2, rest⟩ (c :: seen)
        | none => fail .badEscape position
    | c :: rest =>
      if c.toNat < 0x20 then fail .controlCharacter position
      else readString start fuel ⟨position + 1, rest⟩ (c :: seen)

def isAsciiDigit (c : Char) : Bool := '0' ≤ c && c ≤ '9'

/-- The digits before the point: a zero alone or a run that starts with no zero. -/
def wholePart (cs : List Char) : List Char :=
  match cs with
  | '0' :: _ => ['0']
  | _ => cs.takeWhile isAsciiDigit

/-- The digits after a point, which counts only when digits follow. -/
def fractionPart : List Char → List Char
  | '.' :: cs => cs.takeWhile isAsciiDigit
  | _ => []

/-- Length, sign and digits of an exponent part. -/
def exponentPart (cs : List Char) : Nat × Bool × List Char :=
  match cs with
  | e :: cs =>
    if e = 'e' ∨ e = 'E' then
      let (negative, digits) := Number.signed cs
      let run := digits.takeWhile isAsciiDigit
      if run.isEmpty then (0, false, []) else (1 + (cs.length - digits.length) + run.length, negative, run)
    else (0, false, [])
  | [] => (0, false, [])

def readNumber? (c : Cursor) : Option (Except Stop (Value × Cursor)) :=
  let (negative, body) := match c.rest with
    | '-' :: cs => (true, cs)
    | cs => (false, cs)
  let whole := wholePart body
  if whole.isEmpty then none
  else
    let signLength := c.rest.length - body.length
    let afterWhole := body.drop whole.length
    let fraction := fractionPart afterWhole
    let fractionLength := if fraction.isEmpty then 0 else fraction.length + 1
    let (exponentLength, exponentNegative, exponentDigits) := exponentPart (afterWhole.drop fractionLength)
    let rest := c.advance (signLength + whole.length + fractionLength + exponentLength)
    if fractionLength = 0 ∧ exponentLength = 0 then
      if Number.maxWholeDigits < whole.length then some (.error (.tooManyDigits whole.length))
      else
        let n : Int := Text.decimalValue whole
        some (.ok (.int (if negative then -n else n), rest))
    else
      let e : Int := Text.decimalValue exponentDigits
      let exponent := (if exponentNegative then -e else e) - fraction.length
      some (.ok (.float (Number.nearest negative (Text.decimalValue (whole ++ fraction)) exponent), rest))

def words : List (String × Value) :=
  [("null", .absent), ("true", .bool true), ("false", .bool false), ("NaN", .float (0 / 0)),
    ("Infinity", .float (1 / 0)), ("-Infinity", .float (-1 / 0))]

def readWord? (c : Cursor) : Option (Except Stop (Value × Cursor)) :=
  (words.find? fun (word, _) => word.toList.isPrefixOf c.rest).map fun (word, value) =>
    .ok (value, c.advance word.length)

/-- Sets a text key, in its old place where there is one. -/
def setEntry : List (Value × Value) → String → Value → List (Value × Value)
  | [], name, value => [(.text name, value)]
  | (.text key, old) :: rest, name, value =>
    if key = name then (.text key, value) :: rest else (.text key, old) :: setEntry rest name value
  | entry :: rest, name, value => entry :: setEntry rest name value

mutual

/-- Each nesting uses up a character and at most two units of fuel. -/
def readValue : Nat → Cursor → Except Stop (Value × Cursor)
  | 0, c => fail .value c.position
  | fuel + 1, c =>
    match c.rest with
    | '"' :: rest => do
      let (s, c) ← readString c.position (rest.length + 1) ⟨c.position + 1, rest⟩ []
      return (.text s, c)
    | '{' :: rest =>
      let inside := Cursor.skipSpace ⟨c.position + 1, rest⟩
      match inside.rest with
      | '}' :: rest => .ok (.map [], ⟨inside.position + 1, rest⟩)
      | _ => readEntries fuel inside []
    | '[' :: rest =>
      let inside := Cursor.skipSpace ⟨c.position + 1, rest⟩
      match inside.rest with
      | ']' :: rest => .ok (.list [], ⟨inside.position + 1, rest⟩)
      | _ => readItems fuel inside []
    | _ =>
      match readWord? c with
      | some reading => reading
      | none =>
        match readNumber? c with
        | some reading => reading
        | none => fail .value c.position

/-- The entries of an object from a key on; `seen` are those before. -/
def readEntries : Nat → Cursor → List (Value × Value) → Except Stop (Value × Cursor)
  | 0, c, _ => fail .propertyName c.position
  | fuel + 1, c, seen =>
    match c.rest with
    | '"' :: rest => do
      let (name, c) ← readString c.position (rest.length + 1) ⟨c.position + 1, rest⟩ []
      let c := c.skipSpace
      match c.rest with
      | ':' :: rest => do
        let (value, c) ← readValue fuel (Cursor.skipSpace ⟨c.position + 1, rest⟩)
        let c := c.skipSpace
        let seen := setEntry seen name value
        match c.rest with
        | '}' :: rest => return (.map seen, ⟨c.position + 1, rest⟩)
        | ',' :: rest => readEntries fuel (Cursor.skipSpace ⟨c.position + 1, rest⟩) seen
        | _ => fail .comma c.position
      | _ => fail .colon c.position
    | _ => fail .propertyName c.position

/-- The items of an array from one on; `seen` are those before, the last first. -/
def readItems : Nat → Cursor → List Value → Except Stop (Value × Cursor)
  | 0, c, _ => fail .value c.position
  | fuel + 1, c, seen => do
    let (value, c) ← readValue fuel c
    let c := c.skipSpace
    match c.rest with
    | ']' :: rest => return (.list (value :: seen).reverse, ⟨c.position + 1, rest⟩)
    | ',' :: rest => readItems fuel (Cursor.skipSpace ⟨c.position + 1, rest⟩) (value :: seen)
    | _ => fail .comma c.position

end

/-- Line and column of a position, both counted from 1. -/
def lineAndColumn (cs : List Char) (position : Nat) : Nat × Nat :=
  let before := cs.take position
  (before.count '\n' + 1, (before.reverse.takeWhile (· ≠ '\n')).length + 1)

def readChars (cs : List Char) : Except Stop Value := do
  if cs.head? = some (Char.ofNat 0xfeff) then fail .byteOrderMark 0
  let (value, c) ← readValue (2 * cs.length + 2) (Cursor.skipSpace ⟨0, cs⟩)
  let c := c.skipSpace
  if c.rest.isEmpty then return value else fail .extraText c.position

def read (text : String) : Result Value :=
  match readChars text.toList with
  | .ok value => .ok value
  | .error (.fault cause position) =>
    let (line, column) := lineAndColumn text.toList position
    .error (.malformedDocument cause line column position)
  | .error (.tooManyDigits count) => .error (.refused (.tooManyDigits count))

end Stencil.Document
