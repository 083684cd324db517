import Mathlib.Data.List.Basic
import Stencil.Text.Split

/-!
What cutting at a character yields: the pieces hold no separator and join to the text, and no other list of pieces
does so.
-/

namespace Stencil.Text

variable {sep : Char} {cs p : List Char} {ps : List (List Char)}

def Cut (sep : Char) (cs : List Char) (ps : List (List Char)) : Prop :=
  ps ≠ [] ∧ (∀ p ∈ ps, sep ∉ p) ∧ joinWith [sep] ps = cs

theorem splitChar_append_of_notMem (h : sep ∉ p) (cs : List Char) :
    splitChar sep (p ++ cs) = (splitChar sep cs).modifyHead (p ++ ·) := by
  obtain ⟨q, qs, hq⟩ := List.exists_cons_of_ne_nil (splitChar_ne_nil sep cs)
  rw [hq, List.modifyHead_cons]
  induction p with
  | nil => exact hq
  | cons c p ih =>
    obtain ⟨hc, hp⟩ : c ≠ sep ∧ sep ∉ p := by simpa [eq_comm] using h
    rw [List.cons_append, splitChar, if_neg hc, ih hp]
    rfl

theorem splitChar_of_notMem (h : sep ∉ cs) : splitChar sep cs = [cs] := by
  simpa [splitChar] using splitChar_append_of_notMem h []

theorem splitChar_append_sep (h : sep ∉ p) (cs : List Char) :
    splitChar sep (p ++ sep :: cs) = p :: splitChar sep cs := by
  simp [splitChar_append_of_notMem h, splitChar]

theorem splitChar_append (sep : Char) (front back : List Char) :
    splitChar sep (front ++ sep :: back) = splitChar sep front ++ splitChar sep back := by
  induction front with
  | nil => simp [splitChar]
  | cons c front ih =>
    rw [List.cons_append, splitChar, splitChar, ih]
    obtain ⟨q, qs, hq⟩ := List.exists_cons_of_ne_nil (splitChar_ne_nil sep front)
    split <;> simp [hq]

/-- Without a separator, what is put behind a text goes to its last piece. -/
theorem splitChar_append_last (h : sep ∉ p) (cs : List Char) :
    List.Forall₂ (fun q r => q = r ∨ q ++ p = r) (splitChar sep cs) (splitChar sep (cs ++ p)) := by
  induction cs with
  | nil =>
    rw [List.nil_append, splitChar_of_notMem h]
    exact .cons (.inr rfl) .nil
  | cons c cs ih =>
    rw [List.cons_append, splitChar, splitChar]
    generalize splitChar sep cs = qs, splitChar sep (cs ++ p) = rs at ih
    split
    · exact .cons (.inl rfl) ih
    · cases ih with
      | nil => exact .nil
      | cons hq hqs => exact .cons (hq.imp (congrArg (c :: ·)) (congrArg (c :: ·))) hqs

theorem notMem_of_mem_splitChar (h : p ∈ splitChar sep cs) : sep ∉ p := by
  induction cs generalizing p with
  | nil => simp_all [splitChar]
  | cons c cs ih =>
    rw [splitChar] at h
    split at h
    · rcases List.mem_cons.1 h with rfl | hp
      · simp
      · exact ih hp
    · next hc =>
      obtain ⟨q, qs, hq⟩ := List.exists_cons_of_ne_nil (splitChar_ne_nil sep cs)
      rw [hq] at h ih
      rcases List.mem_cons.1 h with rfl | hp
      · simpa [Ne.symm hc] using ih (p := q) (by simp)
      · exact ih (by simp [hp])

theorem splitChar_joinWith (hne : ps ≠ []) (h : ∀ p ∈ ps, sep ∉ p) : splitChar sep (joinWith [sep] ps) = ps := by
  induction ps with
  | nil => exact absurd rfl hne
  | cons p ps ih =>
    have hp : sep ∉ p := h p (by simp)
    cases ps with
    | nil => exact splitChar_of_notMem hp
    | cons q qs =>
      have hqs := ih (by simp) (fun r hr => h r (by simp [hr]))
      simp only [joinWith, List.append_assoc, List.singleton_append]
      rw [splitChar_append_sep hp, hqs]

theorem splitChar_eq_iff : splitChar sep cs = ps ↔ Cut sep cs ps := by
  constructor
  · rintro rfl
    exact ⟨splitChar_ne_nil sep cs, fun p hp => notMem_of_mem_splitChar hp, joinWith_splitChar sep cs⟩
  · rintro ⟨hne, hps, rfl⟩
    exact splitChar_joinWith hne hps

theorem takeWhile_of_splitChar (h : splitChar sep cs = p :: ps) : cs.takeWhile (· ≠ sep) = p := by
  induction cs generalizing p with
  | nil => simp_all [splitChar]
  | cons c cs ih =>
    rw [splitChar] at h
    split at h
    · next hc => simp_all
    · next hc =>
      obtain ⟨q, qs, hq⟩ := List.exists_cons_of_ne_nil (splitChar_ne_nil sep cs)
      rw [hq] at h
      obtain ⟨rfl, rfl⟩ := List.cons.inj h
      simp [hc, ← ih hq]

theorem getLast_splitChar_eq_nil_iff (sep : Char) (cs : List Char) :
    (splitChar sep cs).getLast? = some [] ↔ cs = [] ∨ cs.getLast? = some sep := by
  induction cs with
  | nil => simp [splitChar]
  | cons c cs ih =>
    obtain ⟨q, qs, hq⟩ := List.exists_cons_of_ne_nil (splitChar_ne_nil sep cs)
    rw [hq] at ih
    rw [splitChar, hq]
    split
    · next hc => cases cs <;> simp_all
    · next hc =>
      cases qs with
      | nil =>
        obtain ⟨-, hn, hj⟩ := splitChar_eq_iff.1 hq
        obtain rfl : q = cs := hj
        have hl : (c :: q).getLast? ≠ some sep := fun hl => by
          have := List.mem_of_getLast? hl
          simp_all
        simp [hl]
      | cons r rs => cases cs <;> simp_all [splitChar]

theorem getLast_tail_splitChar (h : splitChar sep cs = p :: ps) : ps.getLast? = some [] ↔ cs.getLast? = some sep := by
  have hl := getLast_splitChar_eq_nil_iff sep cs
  have hcut := splitChar_eq_iff.1 h
  cases ps with
  | nil =>
    have hp : sep ∉ p := hcut.2.1 p (by simp)
    have hcs : p = cs := hcut.2.2
    subst hcs
    exact ⟨by simp, fun he => absurd (List.mem_of_getLast? he) hp⟩
  | cons q qs =>
    have hne : cs ≠ [] := by
      rintro rfl
      simp [splitChar] at h
    rw [h] at hl
    simpa [hne] using hl

end Stencil.Text
