import Stencil.Text.CaseTable

/-!
Upper and lower case of whole texts. A character may become several, and a capital sigma that ends a word becomes
the final form of the small one.
-/

namespace Stencil.Text

def CaseRun.covers (r : CaseRun) (n : Nat) : Bool :=
  r.first ≤ n && n ≤ r.last && (n - r.first) % r.step == 0

def convertCase (runs : List CaseRun) (expansions : List (Nat × List Nat)) (c : Char) : List Char :=
  match expansions.lookup c.toNat with
  | some codes => codes.map Char.ofNat
  | none =>
    match runs.find? (·.covers c.toNat) with
    | some r => [Char.ofNat (c.toNat + r.shift).toNat]
    | none => [c]

def upperChar : Char → List Char := convertCase upperRuns upperExpansions

def lowerChar : Char → List Char := convertCase lowerRuns lowerExpansions

def upper (cs : List Char) : List Char := cs.flatMap upperChar

/-- Whether the nearest character that is not case-ignorable has a case. -/
def meetsCased (cs : List Char) : Bool :=
  match cs.find? fun c => !caseIgnorableRanges.has c.toNat with
  | some c => casedRanges.has c.toNat
  | none => false

/-- `passed` holds the characters before, the nearest first. -/
def lowerAfter : List Char → List Char → List Char
  | _, [] => []
  | passed, c :: cs =>
    let converted :=
      if c = 'Σ' then [if meetsCased passed && !meetsCased cs then 'ς' else 'σ'] else lowerChar c
    converted ++ lowerAfter (c :: passed) cs

def lower (cs : List Char) : List Char := lowerAfter [] cs

/-- Raises the first character and leaves the others alone. -/
def capitalize : List Char → List Char
  | [] => []
  | c :: cs => upperChar c ++ cs

end Stencil.Text
