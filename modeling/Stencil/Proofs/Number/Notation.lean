import Mathlib.Tactic.SplitIfs
import Stencil.Number.Notation

/-!
Which characters written numbers have. Main statement: a finite floating-point number is written with digits, signs, a
point and the letter of an exponent, and with the point or the letter, which whole numbers have not.
-/

namespace Stencil.Number

theorem isDigit_of_mem_digitsOf {n : Nat} {c : Char} (h : c ∈ digitsOf n) : c.isDigit :=
  Nat.isDigit_of_mem_toDigits (by decide) (by decide) h

theorem mem_signOf {negative : Bool} {c : Char} (h : c ∈ signOf negative) : c = '-' := by
  cases negative with
  | false => cases h
  | true => exact List.mem_singleton.1 h

theorem mem_of_mem_stripZeros {digits : List Char} {c : Char} (h : c ∈ stripZeros digits) : c ∈ digits := by
  rw [stripZeros, List.mem_reverse] at h
  exact List.mem_reverse.1 ((List.dropWhile_suffix _).subset h)

def IsMark (c : Char) : Prop := c.isDigit ∨ c ∈ ['-', '+', '.', 'e']

theorem isMark_zero : IsMark '0' := .inl rfl

theorem isMark_point : IsMark '.' := .inr (by simp)

theorem isMark_sign (negative : Bool) : IsMark (if negative then '-' else '+') := by
  cases negative <;> exact .inr (by simp)

theorem isMark_exponent : IsMark 'e' := .inr (by simp)

variable {digits : List Char}

theorem positional_marks (h : ∀ c ∈ digits, c.isDigit) (point : Int) :
    (∀ c ∈ positional digits point, IsMark c) ∧ '.' ∈ positional digits point := by
  have hdigits : ∀ c ∈ digits, IsMark c := fun c hc => .inl (h c hc)
  have htake : ∀ c ∈ digits.take point.toNat, IsMark c := fun c hc => hdigits c (List.mem_of_mem_take hc)
  have hdrop : ∀ c ∈ digits.drop point.toNat, IsMark c := fun c hc => hdigits c (List.mem_of_mem_drop hc)
  have hzero := isMark_zero
  have hpoint := isMark_point
  rw [positional]
  split_ifs <;> grind

theorem scientific_marks (h : ∀ c ∈ digits, c.isDigit) (f : Notation) (exponent : Int) :
    (∀ c ∈ scientific f digits exponent, IsMark c) ∧ 'e' ∈ scientific f digits exponent := by
  have hhead : ∀ c ∈ digits.take 1, IsMark c := fun c hc => .inl (h c (List.mem_of_mem_take hc))
  have htail : ∀ c ∈ digits.drop 1, IsMark c := fun c hc => .inl (h c (List.mem_of_mem_drop hc))
  have hexponent : ∀ c ∈ digitsOf exponent.natAbs, IsMark c := fun c hc => .inl (isDigit_of_mem_digitsOf hc)
  have hsign := isMark_sign (exponent < 0)
  have hzero := isMark_zero
  have hpoint := isMark_point
  have hletter := isMark_exponent
  rw [scientific, padStart]
  grind

theorem write_marks (f : Notation) {x : Float} (h : (Binary.ofFloat x).isFinite) :
    (∀ c ∈ f.write x, IsMark c) ∧ ('.' ∈ f.write x ∨ 'e' ∈ f.write x) := by
  rw [Notation.write]
  cases hx : Binary.ofFloat x with
  | undefined => rw [hx] at h; cases h
  | infinite => rw [hx] at h; cases h
  | finite negative mantissa exponent =>
    have hsign : ∀ c ∈ signOf negative, IsMark c := fun c hc => mem_signOf hc ▸ isMark_sign true
    have hdigits : ∀ c ∈ stripZeros (digitsOf (shortest mantissa exponent).1), c.isDigit :=
      fun c hc => isDigit_of_mem_digitsOf (mem_of_mem_stripZeros hc)
    have hzero := isMark_zero
    have hpoint := isMark_point
    have hplaces := positional_marks hdigits
    have hscientific := scientific_marks hdigits f
    dsimp only
    split_ifs <;> grind

end Stencil.Number
