import Mathlib.Data.List.TakeDrop
import Stencil.Text.Blank
import Stencil.Text.Digit
import Stencil.Text.Letter

/-!
Classes of characters: the run of a class that a text starts with, and classes that have no character in common.
-/

namespace Stencil.Text

variable {p : Char → Bool} {front rest : List Char} {c : Char} {n : Nat}

theorem takeWhile_append_eq (h : ∀ c ∈ front, p c) (hrest : ∀ c ∈ rest.head?, p c = false) :
    (front ++ rest).takeWhile p = front := by
  rw [List.takeWhile_append_of_pos h]
  cases rest with
  | nil => simp
  | cons c rest => simp [List.takeWhile_cons_of_neg, hrest c rfl]

theorem dropWhile_append_eq (h : ∀ c ∈ front, p c) (hrest : ∀ c ∈ rest.head?, p c = false) :
    (front ++ rest).dropWhile p = rest := by
  rw [List.dropWhile_append_of_pos h]
  cases rest with
  | nil => rfl
  | cons c rest => simp [hrest c rfl]

def Ranges.Covers (rs : Ranges) (n : Nat) : Prop := ∃ r ∈ rs, r.1 ≤ n ∧ n ≤ r.2

theorem Ranges.covers_of_has {ranges : Ranges} (h : ranges.has n) : ranges.Covers n := by
  induction ranges with
  | nil => cases h
  | cons r ranges ih =>
    rw [has] at h
    split at h
    · cases h
    · next hlow =>
      rcases Bool.or_eq_true_iff.1 h with hhigh | h
      · exact ⟨r, by simp, Nat.le_of_not_lt hlow, of_decide_eq_true hhigh⟩
      · obtain ⟨s, hs, hbounds⟩ := ih h
        exact ⟨s, by simp [hs], hbounds⟩

def decimalRanges : Ranges := zeroDigits.map fun start => (start, start + 9)

theorem covers_of_isDecimal (h : isDecimal c) : decimalRanges.Covers c.toNat := by
  rw [isDecimal, digit?, List.findSome?_isSome_iff] at h
  obtain ⟨start, hstart, hvalue⟩ := h
  split at hvalue
  · next hbounds => exact ⟨_, List.mem_map_of_mem hstart, hbounds.1, Nat.le_of_lt_succ hbounds.2⟩
  · cases hvalue

def Apart (rs ss : Ranges) : Bool := rs.all fun r => ss.all fun s => r.2.blt s.1 || s.2.blt r.1

theorem not_covers_of_apart {rs ss : Ranges} (h : Apart rs ss) (hr : rs.Covers n) : ¬ss.Covers n := by
  obtain ⟨r, hmem, hlow, hhigh⟩ := hr
  rintro ⟨s, hmem', hlow', hhigh'⟩
  have hrs := List.all_eq_true.1 (List.all_eq_true.1 h r hmem) s hmem'
  simp only [Bool.or_eq_true, Nat.blt_eq] at hrs
  omega

theorem isBlank_of_isLetter (h : isLetter c) : isBlank c = false := by
  have hapart : Apart letterRanges blankRanges := by decide +kernel
  exact Bool.eq_false_iff.2 fun hb => not_covers_of_apart hapart (Ranges.covers_of_has h) (Ranges.covers_of_has hb)

theorem isDecimal_of_isLetter (h : isLetter c) : isDecimal c = false := by
  have hapart : Apart letterRanges decimalRanges := by decide +kernel
  exact Bool.eq_false_iff.2 fun hd => not_covers_of_apart hapart (Ranges.covers_of_has h) (covers_of_isDecimal hd)

theorem isBlank_of_isDecimal (h : isDecimal c) : isBlank c = false := by
  have hapart : Apart decimalRanges blankRanges := by decide +kernel
  exact Bool.eq_false_iff.2 fun hb => not_covers_of_apart hapart (covers_of_isDecimal h) (Ranges.covers_of_has hb)

end Stencil.Text
