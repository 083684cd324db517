import Stencil.Text.Blank
import Stencil.Text.Digit
import Stencil.Text.Letter

/-!
The lexemes of a date text: words, numerals, blanks and marks. Dots may join words and numerals to one run, which is
cut again at its dots and commas unless it is a single decimal numeral. A comma within such a numeral is its point.
-/

namespace Stencil.Calendar

abbrev Lexeme := List Char

inductive RunKind where
  | word
  | numeral
  | dottedWord
  | dottedNumeral
deriving DecidableEq

/-- A run of letters, digits and dots that is being read. -/
structure Run where
  kind : RunKind
  afterLetter : Bool
  /-- The characters so far, the latest first. -/
  taken : List Char

namespace Run

def opens? (c : Char) : Option Run :=
  if Text.isLetter c then some ⟨.word, false, [c]⟩
  else if Text.isDigitLike c then some ⟨.numeral, false, [c]⟩
  else none

def endsInDot (r : Run) : Bool := r.taken.head? = some '.'

/-- The kind of the run after one more character, nothing where the character is no part of it. -/
def grown? (r : Run) (c : Char) : Option RunKind :=
  match r.kind with
  | .word => if Text.isLetter c then some .word else if c = '.' then some .dottedWord else none
  | .numeral =>
    if Text.isDigitLike c then some .numeral
    else if c = '.' ∨ (c = ',' ∧ 2 ≤ r.taken.length) then some .dottedNumeral
    else none
  | .dottedWord =>
    if c = '.' ∨ Text.isLetter c then some .dottedWord
    else if Text.isDigitLike c ∧ r.endsInDot then some .dottedNumeral
    else none
  | .dottedNumeral =>
    if c = '.' ∨ Text.isDigitLike c then some .dottedNumeral
    else if Text.isLetter c ∧ r.endsInDot then some .dottedWord
    else none

def looksAfterLetter (r : Run) : Bool := r.afterLetter || r.kind = .word || r.kind = .dottedWord

def extend (r : Run) : List Char → Run × List Char
  | [] => (r, [])
  | c :: cs =>
    match r.grown? c with
    | some kind => extend ⟨kind, r.looksAfterLetter, c :: r.taken⟩ cs
    | none => (⟨r.kind, r.looksAfterLetter, r.taken⟩, c :: cs)

theorem length_extend (r : Run) (cs : List Char) : (r.extend cs).2.length ≤ cs.length := by
  induction cs generalizing r with
  | nil => simp [extend]
  | cons c cs ih =>
    unfold extend
    split
    · exact Nat.le_trans (ih _) (Nat.le_succ _)
    · exact Nat.le_refl _

/-- The pieces between dots and commas, and these marks themselves. -/
def cut : List Char → List Lexeme
  | [] => []
  | c :: cs =>
    if c = '.' ∨ c = ',' then [c] :: cut cs
    else
      match cut cs with
      | [] => [[c]]
      | piece :: pieces => if piece = ['.'] ∨ piece = [','] then [c] :: piece :: pieces else (c :: piece) :: pieces

def isDotted (r : Run) : Bool := r.kind = .dottedWord || r.kind = .dottedNumeral

def lexemes (r : Run) : List Lexeme :=
  let cs := r.taken.reverse
  let dots := cs.count '.'
  if r.isDotted && (r.afterLetter || 1 < dots || r.endsInDot || r.taken.head? = some ',') then cut cs
  else if r.kind = .dottedNumeral && dots = 0 then [cs.map fun c => if c = ',' then '.' else c]
  else [cs]

end Run

def lexemesOf : List Char → List Lexeme
  | [] => []
  | c :: cs =>
    match Run.opens? c with
    | some run =>
      have := run.length_extend cs
      (run.extend cs).1.lexemes ++ lexemesOf (run.extend cs).2
    | none => (if Text.isBlank c then [' '] else [c]) :: lexemesOf cs
termination_by cs => cs.length
decreasing_by
  all_goals simp only [List.length_cons]
  all_goals omega

/-- Null characters are passed over. -/
def lexemes (text : String) : List Lexeme := lexemesOf (text.toList.filter fun c => c.toNat ≠ 0)

end Stencil.Calendar
