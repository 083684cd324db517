import Stencil.Proofs.Text.Pieces

/-!
What joining pieces yields: its text, its length, and what it says of the first piece.
-/

namespace Stencil.Text

variable {sep p : List Char} {ps qs : List (List Char)}

theorem joinWith_eq_intercalate (sep : List Char) (ps : List (List Char)) : joinWith sep ps = sep.intercalate ps := by
  fun_induction joinWith sep ps with
  | case1 => rfl
  | case2 p => simp
  | case3 p q ps ih => rw [List.intercalate_cons_cons, ih]

theorem toList_intercalate (sep : String) (ss : List String) :
    (String.intercalate sep ss).toList = joinWith sep.toList (ss.map String.toList) := by
  rw [String.toList_intercalate, joinWith_eq_intercalate]

theorem joinWith_cons_ne_nil (hne : ps ≠ []) : joinWith sep (p :: ps) = p ++ (sep ++ joinWith sep ps) := by
  cases ps with
  | nil => exact absurd rfl hne
  | cons q ps => exact List.append_assoc p sep _

theorem isPrefix_joinWith (sep p : List Char) (ps : List (List Char)) : p <+: joinWith sep (p :: ps) := by
  cases ps with
  | nil => exact List.prefix_refl p
  | cons q ps =>
    rw [joinWith, List.append_assoc]
    exact List.prefix_append p _

theorem eq_of_joinWith_cons {q : List Char} (h : joinWith sep (p :: ps) = joinWith sep (q :: ps)) : p = q := by
  by_cases hps : ps = []
  · simpa [hps, joinWith] using h
  · rw [joinWith_cons_ne_nil hps, joinWith_cons_ne_nil hps] at h
    exact List.append_cancel_right h

theorem joinWith_append (hps : ps ≠ []) (hqs : qs ≠ []) :
    joinWith sep (ps ++ qs) = joinWith sep ps ++ (sep ++ joinWith sep qs) := by
  induction ps with
  | nil => exact absurd rfl hps
  | cons p ps ih =>
    by_cases hne : ps = []
    · rw [hne, List.singleton_append, joinWith_cons_ne_nil hqs, joinWith]
    · have hboth : ps ++ qs ≠ [] := List.append_ne_nil_of_left_ne_nil hne qs
      rw [List.cons_append, joinWith_cons_ne_nil hboth, ih hne, joinWith_cons_ne_nil hne]
      simp only [List.append_assoc]

theorem joinWith_append_sep (sep p : List Char) (ps : List (List Char)) :
    joinWith sep (p :: ps) ++ sep = (p :: ps).flatMap fun q => q ++ sep := by
  induction ps generalizing p with
  | nil => simp [joinWith]
  | cons q qs ih =>
    rw [joinWith, List.append_assoc, ih]
    rfl

theorem append_joinWith (hne : ps ≠ []) : sep ++ joinWith sep ps = ps.flatMap fun p => sep ++ p := by
  induction ps with
  | nil => exact absurd rfl hne
  | cons p ps ih =>
    by_cases hps : ps = []
    · simp [hps, joinWith]
    · rw [joinWith_cons_ne_nil hps, ih hps, List.flatMap_cons, List.append_assoc]

theorem length_joinWith (sep p : List Char) (ps : List (List Char)) :
    (joinWith sep (p :: ps)).length = p.length + (ps.flatMap fun q => q ++ sep).length := by
  have h := congrArg List.length (joinWith_append_sep sep p ps)
  simp only [List.flatMap_cons, List.length_append] at h
  omega

end Stencil.Text
