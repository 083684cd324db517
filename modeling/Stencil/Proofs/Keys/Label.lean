import Mathlib.Data.Rat.Lemmas
import Stencil.Keys.Basic
import Stencil.Value.Same

/-!
When values are one label. Main statement: a whole number, and a truth value as one, shares its label with exactly the
values that equal it.
-/

namespace Stencil

variable {x : Float} {n : Int} {v w : Value}

theorem Number.den_pos_of_ratio {p : Int} {q : Nat} (h : Number.ratio? x = some (p, q)) : 0 < q := by
  rw [Number.ratio?] at h
  split at h
  · obtain ⟨-, rfl⟩ := Prod.mk.inj (Option.some.inj h)
    exact Nat.pow_pos (by decide)
  · cases h

theorem Scalar.ofFloat_eq_number_iff : Scalar.ofFloat x = .number n ↔ Number.equalsWhole x n = true := by
  rw [Scalar.ofFloat, Number.equalsWhole]
  cases hr : Number.ratio? x with
  | none => cases Number.Binary.ofFloat x <;> simp
  | some ratio =>
    obtain ⟨p, q⟩ := ratio
    have hq : q ≠ 0 := (Number.den_pos_of_ratio hr).ne'
    rw [← Rat.mkRat_one]
    simp [Rat.mkRat_eq_iff hq Nat.one_ne_zero]

namespace Value

theorem toLabel_eq_text_iff {s : String} : v.toLabel = .ok (.text s) ↔ v = .text s := by
  constructor
  · intro h
    cases v with
    | text t => rw [Label.text.inj (Except.ok.inj h)]
    | _ => cases h
  · rintro rfl
    rfl

theorem toLabel_of_whole (h : v.whole? = some n) : v.toLabel = .ok (.scalar (.number n)) := by
  cases v with
  | bool b =>
    cases Option.some.inj h
    cases b <;> rfl
  | int m =>
    cases Option.some.inj h
    rfl
  | _ => cases h

theorem same_float_of_whole (h : v.whole? = some n) : same (.float x) v = Number.equalsWhole x n := by
  cases v <;> simp_all [same, sameNumber, whole?]

theorem same_of_wholes {m : Int} (hw : w.whole? = some m) (hv : v.whole? = some n) : same w v = (m == n) := by
  cases w <;> cases v <;> simp_all [same, sameNumber, whole?]

/-- Numbers are one label where they are equal, whatever their kinds. -/
theorem toLabel_eq_iff_same (h : v.whole? = some n) : w.toLabel = v.toLabel ↔ same w v = true := by
  rw [toLabel_of_whole h]
  have hwhole : ∀ {m : Int}, w.whole? = some m → (w.toLabel = .ok (.scalar (.number n)) ↔ same w v = true) := by
    intro m hm
    rw [toLabel_of_whole hm, same_of_wholes hm h, beq_iff_eq, Except.ok.injEq, Label.scalar.injEq,
      Scalar.number.injEq, Rat.intCast_inj]
  cases w with
  | float x =>
    rw [same_float_of_whole h, ← Scalar.ofFloat_eq_number_iff, toLabel, Except.ok.injEq, Label.scalar.injEq]
  | bool b => exact hwhole rfl
  | int m => exact hwhole rfl
  | _ => cases v <;> simp_all [toLabel, same, whole?]

end Value

end Stencil
