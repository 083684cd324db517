import Mathlib.Data.List.DropRight
import Stencil.Text.Blank

/-!
What is left of a text without the blanks around it: a part of the text with no blank at its ends, of which nothing more
is removed.
-/

namespace Stencil.Text

variable {cs as bs blanks : List Char} {m : Char}

theorem trimStart_of_head (h : ∀ c ∈ cs.head?, isBlank c = false) : trimStart cs = cs := by
  cases cs with
  | nil => rfl
  | cons c cs => rw [trimStart, List.dropWhile_cons_of_neg (by simpa using h)]

theorem trimEnd_of_last (h : ∀ c ∈ cs.getLast?, isBlank c = false) : trimEnd cs = cs := by
  have hstart : trimStart cs.reverse = cs.reverse := trimStart_of_head (by simpa using h)
  rw [trimStart] at hstart
  rw [trimEnd, hstart, List.reverse_reverse]

theorem trim_of_ends (hfirst : ∀ c ∈ cs.head?, isBlank c = false) (hlast : ∀ c ∈ cs.getLast?, isBlank c = false) :
    trim cs = cs := by
  rw [trim, trimStart_of_head hfirst, trimEnd_of_last hlast]

theorem trim_eq_trimEnd (h : ∀ c ∈ cs.head?, isBlank c = false) : trim cs = trimEnd cs := by
  rw [trim, trimStart_of_head h]

theorem trimStart_isSuffix (cs : List Char) : trimStart cs <:+ cs := List.dropWhile_suffix isBlank

theorem trimEnd_isPrefix (cs : List Char) : trimEnd cs <+: cs := List.rdropWhile_prefix isBlank cs

theorem trim_isInfix (cs : List Char) : trim cs <:+: cs :=
  (trimEnd_isPrefix _).isInfix.trans (trimStart_isSuffix cs).isInfix

theorem head_trimStart (cs : List Char) : ∀ c ∈ (trimStart cs).head?, isBlank c = false := by
  induction cs with
  | nil => simp [trimStart]
  | cons c cs ih =>
    rw [trimStart, List.dropWhile_cons]
    split
    · exact ih
    · next hc => simpa using hc

theorem last_trimEnd (cs : List Char) : ∀ c ∈ (trimEnd cs).getLast?, isBlank c = false := by
  rw [trimEnd, List.getLast?_reverse]
  exact head_trimStart cs.reverse

theorem head_trim (cs : List Char) : ∀ c ∈ (trim cs).head?, isBlank c = false := by
  intro c hc
  obtain ⟨dropped, hsplit⟩ := trimEnd_isPrefix (trimStart cs)
  refine head_trimStart cs c ?_
  rw [← hsplit, List.head?_append]
  simp [show (trimEnd (trimStart cs)).head? = some c from hc]

theorem last_trim (cs : List Char) : ∀ c ∈ (trim cs).getLast?, isBlank c = false := last_trimEnd (trimStart cs)

theorem trim_trim (cs : List Char) : trim (trim cs) = trim cs := trim_of_ends (head_trim cs) (last_trim cs)

theorem trimEnd_trimEnd (cs : List Char) : trimEnd (trimEnd cs) = trimEnd cs := trimEnd_of_last (last_trimEnd cs)

theorem trimEnd_ne_nil (hne : cs ≠ []) (h : ∀ c ∈ cs.head?, isBlank c = false) : trimEnd cs ≠ [] := by
  intro he
  obtain ⟨c, rest, rfl⟩ := List.exists_cons_of_ne_nil hne
  have hall : ∀ d ∈ c :: rest, isBlank d = true := List.rdropWhile_eq_nil_iff.1 he
  have hc : isBlank c = false := h c rfl
  rw [hall c (by simp)] at hc
  cases hc

theorem trim_isSuffix (h : ∀ c ∈ cs.getLast?, isBlank c = false) : trim cs <:+ cs := by
  have hlast : ∀ c ∈ (trimStart cs).getLast?, isBlank c = false := by
    intro c hc
    obtain ⟨dropped, hsplit⟩ := trimStart_isSuffix cs
    refine h c ?_
    rw [← hsplit, List.getLast?_append]
    simp [show (trimStart cs).getLast? = some c from hc]
  rw [trim, trimEnd_of_last hlast]
  exact trimStart_isSuffix cs

/-- Blanks at the end go no further back than a character that is none. -/
theorem trimEnd_append_cons (hm : isBlank m = false) (as bs : List Char) :
    trimEnd (as ++ m :: bs) = as ++ m :: trimEnd bs := by
  have hm' : ¬ isBlank m = true := by simp [hm]
  induction bs using List.reverseRecOn with
  | nil => exact List.rdropWhile_concat_neg isBlank as m hm'
  | append_singleton bs b ih =>
    have hsplit : as ++ m :: (bs ++ [b]) = as ++ m :: bs ++ [b] := by simp
    by_cases hb : isBlank b
    · calc
        trimEnd (as ++ m :: (bs ++ [b])) = trimEnd (as ++ m :: bs) := by
          rw [hsplit]
          exact List.rdropWhile_concat_pos isBlank _ b hb
        _ = as ++ m :: trimEnd bs := ih
        _ = as ++ m :: trimEnd (bs ++ [b]) := by
          rw [show trimEnd (bs ++ [b]) = trimEnd bs from List.rdropWhile_concat_pos isBlank bs b hb]
    · calc
        trimEnd (as ++ m :: (bs ++ [b])) = as ++ m :: bs ++ [b] := by
          rw [hsplit]
          exact List.rdropWhile_concat_neg isBlank _ b hb
        _ = as ++ m :: trimEnd (bs ++ [b]) := by
          rw [show trimEnd (bs ++ [b]) = bs ++ [b] from List.rdropWhile_concat_neg isBlank bs b hb]
          simp

theorem trimStart_append_cons (hm : isBlank m = false) (as bs : List Char) :
    trimStart (as ++ m :: bs) = trimStart as ++ m :: bs := by
  induction as with
  | nil => exact trimStart_of_head (by simpa using hm)
  | cons a as ih =>
    simp only [trimStart, List.cons_append, List.dropWhile_cons] at ih ⊢
    split
    · exact ih
    · rfl

theorem trim_append_cons_eq (hm : isBlank m = false) (as bs : List Char) :
    trim (as ++ m :: bs) = trimStart as ++ m :: trimEnd bs := by
  rw [trim, trimStart_append_cons hm, trimEnd_append_cons hm]

theorem trim_append_cons (has : ∀ c ∈ as.head?, isBlank c = false) (hm : isBlank m = false) (bs : List Char) :
    trim (as ++ m :: bs) = as ++ m :: trimEnd bs := by
  rw [trim_append_cons_eq hm, trimStart_of_head has]

theorem trim_blanks_append (h : ∀ c ∈ blanks, isBlank c) (cs : List Char) : trim (blanks ++ cs) = trim cs := by
  rw [trim, trim, trimStart, trimStart, List.dropWhile_append_of_pos h]

theorem trimEnd_append_blanks (h : ∀ c ∈ blanks, isBlank c) (cs : List Char) : trimEnd (cs ++ blanks) = trimEnd cs := by
  have hreverse : ∀ c ∈ blanks.reverse, isBlank c := by simpa using h
  rw [trimEnd, trimEnd, List.reverse_append, List.dropWhile_append_of_pos hreverse]

theorem trim_append_blanks (h : ∀ c ∈ blanks, isBlank c) (cs : List Char) : trim (cs ++ blanks) = trim cs := by
  rw [trim, trim, trimStart, trimStart, List.dropWhile_append]
  split
  · next hnil =>
    have hblanks : blanks.dropWhile isBlank = [] := List.dropWhile_eq_nil_iff.2 h
    rw [hblanks, List.isEmpty_iff.1 hnil]
  · exact trimEnd_append_blanks h _

end Stencil.Text
