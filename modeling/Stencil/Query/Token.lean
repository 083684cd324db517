import Stencil.Text.Digit

/-!
The tokens of a query. Names in quotes may hold any character, with a backslash before a quote or a backslash.
-/

namespace Stencil.Query

inductive Token where
  | root
  | any
  | dot
  | descend
  | openBracket
  | closeBracket
  | openGroup
  | closeGroup
  | comma
  | colon
  | either
  | both
  | having
  | lacking
  | name (s : String)
  | number (n : Int)
  | relation (s : String)
deriving DecidableEq

def isAsciiLetter (c : Char) : Bool := ('a' ≤ c && c ≤ 'z') || ('A' ≤ c && c ≤ 'Z')

def isNameStart (c : Char) : Bool :=
  isAsciiLetter c || c = '_' || c = '@' || (0x4e00 ≤ c.toNat && c.toNat ≤ 0x9fa5) ||
    (0x1f600 ≤ c.toNat && c.toNat ≤ 0x1f64f)

def isNamePart (c : Char) : Bool := isNameStart c || ('0' ≤ c && c ≤ '9') || c = '-'

def isSeparator (c : Char) : Bool := c = ' ' || c = '\t' || c = '\n'

def symbol? : Char → Option Token
  | '$' => some .root
  | '*' => some .any
  | '.' => some .dot
  | '[' => some .openBracket
  | ']' => some .closeBracket
  | '(' => some .openGroup
  | ')' => some .closeGroup
  | ',' => some .comma
  | ':' => some .colon
  | '|' => some .either
  | '&' => some .both
  | _ => none

def Token.ofWord (s : String) : Token :=
  if s = "where" then .having else if s = "wherenot" then .lacking else .name s

def quotedPart (mark : Char) : List Char → Option (List Char × List Char)
  | [] => none
  | '\\' :: c :: rest => if c = '\n' then none else (quotedPart mark rest).map fun (s, after) => (c :: s, after)
  | c :: rest =>
    if c = mark then some ([], rest)
    else if c = '\\' then none
    else (quotedPart mark rest).map fun (s, after) => (c :: s, after)

theorem length_of_quotedPart {mark : Char} {cs s after : List Char} (h : quotedPart mark cs = some (s, after)) :
    after.length < cs.length := by
  fun_induction quotedPart mark cs generalizing s after with
  | case1 => simp at h
  | case2 => simp at h
  | case3 c rest _ ih =>
    obtain ⟨⟨t, a⟩, hq, he⟩ := Option.map_eq_some_iff.1 h
    cases he
    have := ih hq
    simp only [List.length_cons]
    omega
  | case4 => cases h; simp
  | case5 => simp at h
  | case6 c rest _ _ _ ih =>
    obtain ⟨⟨t, a⟩, hq, he⟩ := Option.map_eq_some_iff.1 h
    cases he
    have := ih hq
    simp only [List.length_cons]
    omega

theorem length_dropWhile_le {α : Type} (p : α → Bool) (cs : List α) : (cs.dropWhile p).length ≤ cs.length := by
  induction cs with
  | nil => simp
  | cons c cs ih =>
    rw [List.dropWhile_cons]
    split
    · exact Nat.le_succ_of_le ih
    · exact Nat.le_refl _

def quoteToken? (mark : Char) (s : List Char) : Token :=
  if mark = '\x60' then .relation (String.ofList s) else .name (String.ofList s)

/-- Nothing where a character starts no token or a quote stays open. -/
def scan : List Char → Option (List Token)
  | [] => some []
  | '.' :: '.' :: rest => (scan rest).map (.descend :: ·)
  | c :: rest =>
    if isSeparator c then scan rest
    else if isNameStart c then
      (scan (rest.dropWhile isNamePart)).map (.ofWord (String.ofList (c :: rest.takeWhile isNamePart)) :: ·)
    else if Text.isDecimal c then
      let digits := c :: rest.takeWhile Text.isDecimal
      (scan (rest.dropWhile Text.isDecimal)).map (.number (Text.decimalValue digits) :: ·)
    else if c = '-' ∧ (rest.takeWhile Text.isDecimal) ≠ [] then
      let digits := rest.takeWhile Text.isDecimal
      (scan (rest.dropWhile Text.isDecimal)).map (.number (-(Text.decimalValue digits : Int)) :: ·)
    else if c = '\x27' ∨ c = '"' ∨ c = '\x60' then
      match h : quotedPart c rest with
      | some (s, after) =>
        have := length_of_quotedPart h
        (scan after).map (quoteToken? c s :: ·)
      | none => none
    else
      match symbol? c with
      | some token => (scan rest).map (token :: ·)
      | none => none
termination_by cs => cs.length
decreasing_by
  all_goals simp only [List.length_cons]
  all_goals first
    | omega
    | exact Nat.lt_succ_of_le (length_dropWhile_le _ _)

end Stencil.Query
