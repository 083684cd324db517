import Stencil.Proofs.Number.Whole
import Stencil.Proofs.Text.Classes
import Stencil.Proofs.Text.Joining
import Stencil.Proofs.Value.Correspondence

/-!
Dotted paths of identifiers through documents. Main statement: such a path reads one entry after the other, and leads to
nothing from where one is missing.
-/

namespace Stencil

open Outcome

variable {d v w : Value} {name : String} {names : List String}

namespace Value

def field? : Value → String → Option Value
  | .map entries, name => lookup? entries name
  | _, _ => none

/-- The entry of an entry, for one name after the other. -/
def descend (v : Value) (names : List String) : Option Value := names.foldlM field? v

theorem IsDocument.field (hd : d.IsDocument) (h : d.field? name = some w) : w.IsDocument := by
  cases hd with
  | map hk hv => exact IsDocument.lookup (.map hk hv) h
  | _ => cases h

end Value

def isIdentifierStart (c : Char) : Bool := Text.isLetter c || c = '_'

def isIdentifierPart (c : Char) : Bool := isIdentifierStart c || Text.isDecimal c

/-- A letter or an underscore, and after it letters, digits and underscores. -/
def IsIdentifier (name : String) : Prop :=
  ∃ c cs, name.toList = c :: cs ∧ isIdentifierStart c ∧ ∀ d ∈ cs, isIdentifierPart d

namespace IsIdentifier

theorem ne_empty (h : IsIdentifier name) : name ≠ "" := by
  obtain ⟨c, cs, hname, -⟩ := h
  rintro rfl
  cases hname

theorem dot_notMem (h : IsIdentifier name) : '.' ∉ name.toList := by
  obtain ⟨c, cs, hname, hc, hcs⟩ := h
  rw [hname, List.mem_cons, not_or]
  constructor
  · rintro rfl
    exact absurd hc (by decide)
  · exact fun hmem => absurd (hcs '.' hmem) (by decide)

theorem readWhole (h : IsIdentifier name) : Number.readWhole name = .ok none := by
  obtain ⟨c, cs, hname, hc, -⟩ := h
  have hplus : c ≠ '+' := by
    rintro rfl
    exact absurd hc (by decide)
  have hminus : c ≠ '-' := by
    rintro rfl
    exact absurd hc (by decide)
  rcases Bool.or_eq_true_iff.1 hc with hletter | hunderscore
  · exact Number.readWhole_of_head hname (Text.isBlank_of_isLetter hletter) (Text.isDecimal_of_isLetter hletter)
      hplus hminus
  · obtain rfl := of_decide_eq_true hunderscore
    exact Number.readWhole_of_head hname (by decide) (by decide) hplus hminus

end IsIdentifier

namespace Path

theorem walk_absent (segments : List String) : walk .absent segments = .ok .absent := by
  cases segments <;> rfl

theorem step_identifier (hd : d.IsDocument) (h : IsIdentifier name) :
    step d name = .ok ((d.field? name).getD .absent) := by
  cases hd with
  | list hitems =>
    have hwhole : wholeOfText? name = .ok none := by rw [wholeOfText?, h.readWhole]
    rw [step, stepInto, hwhole]
    rfl
  | _ => rfl

theorem walk_identifiers (hd : d.IsDocument) (h : ∀ name ∈ names, IsIdentifier name) :
    walk d names = .ok ((d.descend names).getD .absent) := by
  induction names generalizing d with
  | nil => rw [walk, hd.unwrap_eq, Value.descend, List.foldlM_nil, Option.pure_def, Option.getD_some]
  | cons name names ih =>
    obtain ⟨hname, hnames⟩ := List.forall_mem_cons.1 h
    rw [walk_cons, step_identifier hd hname, ok_bind, Value.descend, List.foldlM_cons]
    cases he : d.field? name with
    | none => exact walk_absent names
    | some w => exact ih (hd.field he) hnames

theorem split_intercalate (hne : names ≠ []) (h : ∀ name ∈ names, name ≠ "" ∧ '.' ∉ name.toList) :
    split (String.intercalate "." names) = names := by
  have hlist : (String.intercalate "." names).toList = Text.joinWith ['.'] (names.map String.toList) :=
    Text.toList_intercalate "." names
  have hparts : Text.splitChar '.' (String.intercalate "." names).toList = names.map String.toList := by
    rw [hlist]
    exact Text.splitChar_joinWith (by simpa using hne) (by simpa using fun name hname => (h name hname).2)
  have hpath : String.intercalate "." names ≠ "" := by
    intro he
    rw [he] at hparts
    obtain ⟨name, names, rfl⟩ := List.exists_cons_of_ne_nil hne
    obtain ⟨hname, -⟩ := List.cons.inj hparts
    exact (h name (by simp)).1 (String.toList_inj.1 hname.symm)
  rw [split, if_neg hpath, hparts, List.map_map]
  simp [Function.comp_def]

theorem navigate_identifiers (hd : d.IsDocument) (hne : names ≠ []) (h : ∀ name ∈ names, IsIdentifier name) :
    navigate d (String.intercalate "." names) = .ok ((d.descend names).getD .absent) := by
  rw [navigate, split_intercalate hne fun name hname => ⟨(h name hname).ne_empty, (h name hname).dot_notMem⟩]
  exact walk_identifiers hd h

end Path

end Stencil
