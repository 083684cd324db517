/-!
Cutting a text at a separator and joining the pieces again. The scan goes from left to right, and occurrences of the
separator do not overlap.
-/

namespace Stencil.Text

def splitChar (sep : Char) : List Char → List (List Char)
  | [] => [[]]
  | c :: cs => if c = sep then [] :: splitChar sep cs else (splitChar sep cs).modifyHead (c :: ·)

theorem splitChar_ne_nil (sep : Char) (cs : List Char) : splitChar sep cs ≠ [] := by
  induction cs with
  | nil => simp [splitChar]
  | cons c cs ih =>
    unfold splitChar
    split
    · simp
    · cases h : splitChar sep cs with
      | nil => exact absurd h ih
      | cons p ps => simp

/-- The pieces around the separator `first :: others`; `skip` characters of an occurrence are still to pass. -/
def splitTextFrom (first : Char) (others : List Char) : Nat → List Char → List (List Char)
  | _, [] => [[]]
  | skip + 1, _ :: cs => splitTextFrom first others skip cs
  | 0, c :: cs =>
    if (first :: others).isPrefixOf (c :: cs) then [] :: splitTextFrom first others others.length cs
    else (splitTextFrom first others 0 cs).modifyHead (c :: ·)

/-- There is no cutting at an empty separator. -/
def splitText? : List Char → List Char → Option (List (List Char))
  | [], _ => none
  | first :: others, cs => some (splitTextFrom first others 0 cs)

def joinWith (sep : List Char) : List (List Char) → List Char
  | [] => []
  | [p] => p
  | p :: q :: ps => p ++ sep ++ joinWith sep (q :: ps)

theorem joinWith_splitChar (sep : Char) (cs : List Char) : joinWith [sep] (splitChar sep cs) = cs := by
  induction cs with
  | nil => rfl
  | cons c cs ih =>
    unfold splitChar
    cases h : splitChar sep cs with
    | nil => exact absurd h (splitChar_ne_nil sep cs)
    | cons p ps =>
      rw [h] at ih
      split
      next heq => simp [joinWith, ih, heq]
      next => cases ps <;> simp_all [joinWith]

end Stencil.Text
