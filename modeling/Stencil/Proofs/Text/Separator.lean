import Mathlib.Data.List.Infix
import Stencil.Proofs.Text.Joining

/-!
Cutting a text at a separator of any length. Main statement: the pieces join to the text again, and the separator occurs
in none of them, however its occurrences in the text overlap.
-/

namespace Stencil.Text

variable {first : Char} {others sep cs p : List Char} {skip : Nat}

theorem splitTextFrom_ne_nil (first : Char) (others : List Char) (skip : Nat) (cs : List Char) :
    splitTextFrom first others skip cs ≠ [] := by
  fun_induction splitTextFrom first others skip cs with
  | case1 => simp
  | case2 skip c cs ih => exact ih
  | case3 c cs _ _ => simp
  | case4 c cs _ ih => simpa using ih

theorem joinWith_modifyHead (c : Char) {ps : List (List Char)} (hne : ps ≠ []) :
    joinWith sep (ps.modifyHead (c :: ·)) = c :: joinWith sep ps := by
  obtain ⟨p, ps, rfl⟩ := List.exists_cons_of_ne_nil hne
  cases ps <;> rfl

/-- What is skipped belongs to an occurrence that has been cut out. -/
theorem joinWith_splitTextFrom (first : Char) (others : List Char) (skip : Nat) (cs : List Char) :
    joinWith (first :: others) (splitTextFrom first others skip cs) = cs.drop skip := by
  fun_induction splitTextFrom first others skip cs with
  | case1 => simp [joinWith]
  | case2 skip c cs ih => rw [ih, List.drop_succ_cons]
  | case3 c cs hsep ih =>
    obtain ⟨rfl, rest, rfl⟩ := List.cons_prefix_cons.1 (List.isPrefixOf_iff_prefix.1 hsep)
    rw [joinWith_cons_ne_nil (splitTextFrom_ne_nil _ _ _ _), ih, List.drop_left]
    rfl
  | case4 c cs _ ih => rw [joinWith_modifyHead c (splitTextFrom_ne_nil _ _ _ _), ih, List.drop_zero, List.drop_zero]

theorem not_infix_of_mem_splitTextFrom (h : p ∈ splitTextFrom first others skip cs) : ¬ first :: others <:+: p := by
  fun_induction splitTextFrom first others skip cs generalizing p with
  | case1 =>
    obtain rfl := List.mem_singleton.1 h
    simp
  | case2 skip c cs ih => exact ih h
  | case3 c cs _ ih =>
    rcases List.mem_cons.1 h with rfl | h
    · simp
    · exact ih h
  | case4 c cs hsep ih =>
    obtain ⟨q, qs, hq⟩ := List.exists_cons_of_ne_nil (splitTextFrom_ne_nil first others 0 cs)
    rw [hq, List.modifyHead_cons] at h
    rcases List.mem_cons.1 h with rfl | h
    · -- A separator at the start of the first piece would stand at the start of the text.
      have hcs := joinWith_splitTextFrom first others 0 cs
      rw [hq, List.drop_zero] at hcs
      have hprefix : q <+: cs := hcs ▸ isPrefix_joinWith _ q qs
      rw [List.infix_cons_iff, not_or]
      refine ⟨fun hstart => hsep ?_, ih (by simp [hq])⟩
      exact List.isPrefixOf_iff_prefix.2 (hstart.trans (List.cons_prefix_cons.2 ⟨rfl, hprefix⟩))
    · exact ih (by simp [hq, h])

theorem exists_splitText (hne : sep ≠ []) (cs : List Char) :
    ∃ ps, splitText? sep cs = some ps ∧ joinWith sep ps = cs ∧ ∀ p ∈ ps, ¬ sep <:+: p := by
  obtain ⟨first, others, rfl⟩ := List.exists_cons_of_ne_nil hne
  exact ⟨_, rfl, joinWith_splitTextFrom first others 0 cs, fun _ => not_infix_of_mem_splitTextFrom⟩

end Stencil.Text
