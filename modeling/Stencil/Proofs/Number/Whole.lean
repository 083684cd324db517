import Mathlib.Tactic.SplitIfs
import Stencil.Number.Whole
import Stencil.Proofs.Number.Lenient
import Stencil.Proofs.Outcome

/-!
Which texts whole numbers are read from. Main statement: of the numerals, those are refused that are too long or beside
an information separator.
-/

namespace Stencil.Number

variable {s : String} {c : Char} {cs : List Char}

def IsUnreadable (s : String) : Prop :=
  ∃ negative digits, wholeShape? (Text.trim s.toList) = some (negative, digits) ∧ (maxWholeDigits < digits.length ∨
    (s.toList.takeWhile Text.isBlank).any isInformationSeparator ∨
      (s.toList.reverse.takeWhile Text.isBlank).any isInformationSeparator)

theorem readWhole_error_iff (s : String) : (∃ fault, readWhole s = .error fault) ↔ IsUnreadable s := by
  rw [readWhole, IsUnreadable]
  cases hshape : wholeShape? (Text.trim s.toList) with
  | none => simp
  | some numeral =>
    obtain ⟨negative, digits⟩ := numeral
    dsimp only
    split_ifs <;> simp_all

theorem exists_readWhole (h : ¬IsUnreadable s) : ∃ n, readWhole s = .ok n :=
  Outcome.exists_ok_of_ne_error fun fault hfault => h ((readWhole_error_iff s).1 ⟨fault, hfault⟩)

theorem isUnreadable_of_digits (h : Digits s.toList) (hlength : maxWholeDigits < s.toList.length) : IsUnreadable s := by
  obtain ⟨c, cs, hs⟩ := List.exists_cons_of_length_pos (Nat.zero_lt_of_lt hlength)
  have hblank : ∀ d ∈ s.toList, Text.isBlank d = false := fun d hd => Text.isBlank_of_isDecimal (h d hd)
  have htrim : Text.trim s.toList = s.toList :=
    Text.trim_of_ends (fun d hd => hblank d (List.mem_of_mem_head? hd)) fun d hd => hblank d (List.mem_of_getLast? hd)
  obtain ⟨hplus, hminus⟩ := ne_sign_of_isDecimal (h c (by simp [hs]))
  have hsigned : signed s.toList = (false, s.toList) := by rw [hs, signed_of_ne hplus hminus]
  refine ⟨false, s.toList, ?_, .inl hlength⟩
  rw [htrim, wholeShape?, hsigned]
  exact if_pos ⟨by simp [hs], List.all_eq_true.2 h⟩

theorem readWhole_of_head (h : s.toList = c :: cs) (hblank : Text.isBlank c = false)
    (hdecimal : Text.isDecimal c = false) (hplus : c ≠ '+') (hminus : c ≠ '-') : readWhole s = .ok none := by
  have htrim : Text.trim (c :: cs) = c :: Text.trimEnd cs := by
    rw [Text.trim_eq_trimEnd (by simpa using hblank), ← List.nil_append (c :: cs), Text.trimEnd_append_cons hblank,
      List.nil_append]
  have hshape : wholeShape? (c :: Text.trimEnd cs) = none := by
    rw [wholeShape?, signed_of_ne hplus hminus]
    simp [hdecimal]
  rw [readWhole, h, htrim, hshape]

end Stencil.Number
