import Mathlib
import Stencil.Number.Rounding
import Stencil.Proofs.Number.Range

/-!
When rounding to places leaves the range of floating-point numbers. Main statement: only rounding to tens, hundreds and
so on does, and exactly where the nearest multiple is at or above the limit.
-/

namespace Stencil.Number

variable {x : Float} {negative : Bool} {mantissa : Nat} {exponent places : Int}

theorem finite_bounds (h : Binary.ofFloat x = .finite negative mantissa exponent) :
    mantissa < 2 ^ 53 ∧ exponent ≤ 971 := by
  have hfraction : x.toBits.toNat % Nat.pow 2 52 < 2 ^ 52 := Nat.mod_lt _ (by decide)
  have hbiased : x.toBits.toNat / Nat.pow 2 52 % 2048 < 2048 := Nat.mod_lt _ (by decide)
  have hpow : Nat.pow 2 52 = 2 ^ 52 := rfl
  rw [Binary.ofFloat] at h
  split_ifs at h with hones hzero hlow
  · cases h
    omega
  · cases h
    omega

theorem divideRound_le (n d : Nat) : divideRound n d ≤ n / d + 1 := by
  rw [divideRound]
  split_ifs <;> omega

theorem exists_floatLimit_eq :
    ∃ unit : Nat, 0 < unit ∧ floatLimit = (2 ^ 54 - 1) * unit ∧ ∀ k : Nat, k ≤ 1 + 970 → 2 ^ k ≤ 2 * unit := by
  refine ⟨2 ^ 970, Nat.two_pow_pos _, by rw [floatLimit], fun k hk => ?_⟩
  refine le_trans (pow_le_pow_right₀ (by decide) hk) (le_of_eq ?_)
  rw [pow_add, pow_one]

theorem unitsAt_lt (hm : mantissa < 2 ^ 53) (he : exponent ≤ 971) (hplaces : 0 < places) :
    unitsAt places mantissa exponent < floatLimit * 10 ^ places.toNat := by
  obtain ⟨unit, hpos, hlimit, hpow⟩ := exists_floatLimit_eq
  obtain ⟨value, hvalue⟩ : ∃ value, value = mantissa * 2 ^ exponent.toNat := ⟨_, rfl⟩
  obtain ⟨scale, hscale⟩ : ∃ scale, scale = 10 ^ places.toNat := ⟨_, rfl⟩
  have hunits : unitsAt places mantissa exponent ≤ value * scale + 1 := by
    rw [hvalue, hscale]
    exact le_trans (divideRound_le _ _) (Nat.succ_le_succ (Nat.div_le_self _ _))
  have hvalue' : value ≤ (2 ^ 53 - 1) * (2 * unit) := hvalue ▸ Nat.mul_le_mul (by omega) (hpow _ (by omega))
  have hten : 10 ^ 1 ≤ scale := hscale ▸ pow_le_pow_right₀ (by decide) (by omega)
  have hproduct : value * scale ≤ (2 ^ 53 - 1) * (2 * unit) * scale := Nat.mul_le_mul_right _ hvalue'
  have hone : 1 * 10 ≤ unit * scale := Nat.mul_le_mul hpos hten
  calc unitsAt places mantissa exponent ≤ (2 ^ 53 - 1) * (2 * unit) * scale + 1 := by omega
    _ < (2 ^ 53 - 1) * (2 * unit) * scale + unit * scale := by omega
    _ = floatLimit * 10 ^ places.toNat := by
      rw [hlimit, ← hscale]
      ring

/-- Rounding to tens or higher powers goes past the largest number. -/
def RoundsOver (x : Float) (places : Int) : Prop :=
  ∃ negative mantissa exponent, Binary.ofFloat x = .finite negative mantissa exponent ∧
    coarsestPlaces ≤ places ∧ places ≤ 0 ∧ floatLimit ≤ unitsAt places mantissa exponent * 10 ^ (-places).toNat

theorem isFinite_rounded_iff (negative : Bool) (places : Int) (hm : mantissa < 2 ^ 53) (he : exponent ≤ 971) :
    (Binary.ofFloat (nearest negative (unitsAt places mantissa exponent) (-places))).isFinite ↔
      (places ≤ 0 → unitsAt places mantissa exponent * 10 ^ (-places).toNat < floatLimit) := by
  rw [isFinite_nearest_iff, neg_neg]
  rcases le_or_gt places 0 with hle | hlt
  · have hnone : places.toNat = 0 := by omega
    rw [hnone, pow_zero, mul_one]
    exact ⟨fun h _ => h, fun h => h hle⟩
  · have hnone : (-places).toNat = 0 := by omega
    rw [hnone, pow_zero, mul_one]
    exact iff_of_true (unitsAt_lt hm he hlt) fun hle => absurd hle (not_le.2 hlt)

theorem roundTo_eq_none_iff : roundTo? x places = none ↔ RoundsOver x places := by
  rw [roundTo?]
  cases hx : Binary.ofFloat x with
  | finite negative mantissa exponent =>
    obtain ⟨hm, he⟩ := finite_bounds hx
    have hiff : RoundsOver x places ↔ coarsestPlaces ≤ places ∧ places ≤ 0 ∧
        floatLimit ≤ unitsAt places mantissa exponent * 10 ^ (-places).toNat := by
      constructor
      · rintro ⟨n, m, e, heq, h⟩
        cases hx.symm.trans heq
        exact h
      · exact fun h => ⟨negative, mantissa, exponent, hx, h⟩
    rw [hiff]
    have hfinite := isFinite_rounded_iff negative places hm he
    dsimp only
    split_ifs with hfine hcoarse hnear
    · have hpositive : ¬places ≤ 0 := not_le.2 (lt_trans (by decide) hfine)
      exact iff_of_false id fun h => hpositive h.2.1
    · exact iff_of_false id fun h => not_lt.2 h.1 hcoarse
    · exact iff_of_false id fun h => not_le.2 (hfinite.1 hnear h.2.1) h.2.2
    · rw [hfinite, Classical.not_imp, not_lt] at hnear
      exact iff_of_true rfl ⟨not_lt.1 hcoarse, hnear⟩
  | _ => exact iff_of_false (Option.some_ne_none _) fun ⟨_, _, _, heq, _⟩ => by rw [hx] at heq; cases heq

end Stencil.Number
