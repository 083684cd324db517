import Mathlib
import Stencil.Number.Binary

/-!
The range of floating-point numbers. Main statement: a decimal has a nearest floating-point number below half the way
from the largest one to the next power of two, and from there on it is too large.
-/

namespace Stencil.Number

open Float.Model (Format UnpackedFloat totalExponent)
open Float.Model.UnpackedFloat

/-- Zero, or finite with an exponent up to a bound. -/
def UpTo (c : Int) : UnpackedFloat → Prop
  | .zero _ => True
  | .finite _ _ e _ => e ≤ c
  | _ => False

/-- Finite, with an exponent for which there is a bit pattern. -/
abbrev InRange (u : UnpackedFloat) : Prop := UpTo 971 u

theorem UpTo.mono {c d : Int} {u : UnpackedFloat} (h : UpTo c u) (hcd : c ≤ d) : UpTo d u := by
  cases u with
  | finite s m e hm => exact le_trans h hcd
  | _ => exact h

theorem unpackExponent_toNat (b : BitVec Format.binary64.numBits) :
    (unpackExponent b).toNat = b.toNat / 2 ^ 52 % 2 ^ 11 := by
  rw [unpackExponent_def, BitVec.extractLsb'_toNat, Nat.shiftRight_eq_div_pow]

theorem allOnes_iff (e : BitVec 11) : e = -1#11 ↔ e.toNat = 2047 := by
  rw [← BitVec.toNat_inj]
  rfl

theorem isFinite_iff_exponent (x : Float) :
    (Binary.ofFloat x).isFinite ↔ @unpackExponent .binary64 x.toBits.toBitVec ≠ -1#11 := by
  have hbits : @unpackExponent .binary64 x.toBits.toBitVec = -1#11 ↔
      x.toBits.toNat / Nat.pow 2 52 % 2048 = 2047 := by
    rw [allOnes_iff, unpackExponent_toNat]
    rfl
  rw [ne_eq, hbits, Binary.ofFloat]
  split_ifs <;> simp_all [Binary.isFinite]

theorem inRange_unpack_iff (b : BitVec Format.binary64.numBits) :
    InRange (unpack .binary64 b) ↔ unpackExponent b ≠ -1#11 := by
  have hlt : (unpackExponent b).toNat < 2048 := (unpackExponent b).isLt
  rw [unpack]
  split_ifs with hones hzero hexponent hmantissa
  · simp [UpTo, hones]
  · simp [UpTo, hones]
  · simp [UpTo, hexponent]
  · simp [UpTo, hexponent, Format.exponentBias]
  · rw [allOnes_iff] at hones
    simp only [UpTo, Format.exponentBias, ne_eq, allOnes_iff, hones, not_false_eq_true, iff_true]
    norm_num
    omega

theorem unpackExponent_pack_finite (s : Sign) {m : Nat} (e : Int) (hm : 0 < m) :
    (unpackExponent (UnpackedFloat.pack .binary64 (.finite s m e hm))).toNat =
      if e ≤ 971 then if m.log2 + 1 = 53 then (e + 1075).toNat else 0 else 2047 := by
  obtain ⟨biased, hbiased⟩ : ∃ biased : Nat, biased = (e + (1023 : Nat) + (52 : Nat)).toNat := ⟨_, rfl⟩
  have hpack : UnpackedFloat.pack .binary64 (.finite s m e hm) =
      if 2 ^ 11 ≤ biased + 1 then packedInfinity .binary64 s
      else if m.log2 + 1 = 53 then packComponents .binary64 s (BitVec.ofNat 11 biased) (BitVec.ofNat 52 m)
      else packComponents .binary64 s 0#11 (BitVec.ofNat 52 m) := by
    rw [hbiased]
    rfl
  rw [hpack]
  by_cases he : e ≤ 971
  · have hlt : (e + 1075).toNat < 2 ^ 11 := by omega
    have heq : biased = (e + 1075).toNat := by omega
    rw [if_neg (by omega), if_pos he, heq]
    split
    · rw [unpackExponent_packComponents, BitVec.toNat_ofNat, Nat.mod_eq_of_lt hlt]
    · rw [unpackExponent_packComponents]
      rfl
  · rw [if_pos (by omega), if_neg he, packedInfinity, unpackExponent_packComponents]
    rfl

theorem unpackExponent_pack_iff (u : UnpackedFloat) :
    unpackExponent (UnpackedFloat.pack .binary64 u) ≠ -1#11 ↔ InRange u := by
  cases u with
  | notANumber => simp [UnpackedFloat.pack, packedNaN, UpTo]
  | infinity s => simp [UnpackedFloat.pack, packedInfinity, UpTo]
  | zero s => simp [UnpackedFloat.pack, packedZero, UpTo]
  | finite s m e hm =>
    rw [ne_eq, allOnes_iff, unpackExponent_pack_finite, InRange, UpTo]
    by_cases he : e ≤ 971
    · rw [if_pos he]
      split <;> omega
    · rw [if_neg he]
      omega

theorem isFinite_iff_inRange (x : Float) : (Binary.ofFloat x).isFinite ↔ InRange x.toModel.unpack := by
  rw [isFinite_iff_exponent]
  exact (inRange_unpack_iff _).symm

theorem isFinite_ofModel_pack_iff (u : UnpackedFloat) :
    (Binary.ofFloat (.ofModel (Float.Model.pack u))).isFinite ↔ InRange u := by
  rw [isFinite_iff_exponent]
  exact unpackExponent_pack_iff u

/-! ## Rounding -/

variable {sign : Float.Model.UnpackedFloat.Sign} {m k : Nat} {e : Int} {accuracy : Accuracy}

theorem shift_mantissa (em : ExtendedMantissa) (k : Nat) : (em >>> k).mantissa = em.mantissa / 2 ^ k := by
  induction k generalizing em with
  | zero => simp [HShiftRight.hShiftRight, Nat.repeat]
  | succ k ih =>
    show (em >>> k).mantissa / 2 = _
    rw [ih, Nat.div_div_eq_div_mul, Nat.pow_succ]

theorem ofMantissaAndAccuracy_mantissa (m : Nat) (accuracy : Accuracy) :
    (ExtendedMantissa.ofMantissaAndAccuracy m accuracy).mantissa = m := by
  rcases accuracy with _ | _ | _ | _ <;> rfl

theorem roundedMantissa_bounds (em : ExtendedMantissa) :
    em.mantissa ≤ em.roundedMantissa ∧ em.roundedMantissa ≤ em.mantissa + 1 := by
  rcases em with ⟨m, _ | _, _ | _⟩ <;>
    simp only [ExtendedMantissa.roundedMantissa, ExtendedMantissa.accuracy, Accuracy.roundToNearestEven] <;> omega

/-- Rounding carries out of all ones exactly where the first bit that is dropped is one. -/
theorem roundedMantissa_shift_succ_iff (em : ExtendedMantissa) (k : Nat) :
    (em >>> (k + 1)).roundedMantissa < 2 ^ 53 ↔ em.mantissa / 2 ^ k < 2 ^ 54 - 1 := by
  have hstep : em >>> (k + 1) = (em >>> k).shiftRightOne := rfl
  rw [← shift_mantissa em k, hstep]
  rcases em >>> k with ⟨m, _ | _, _ | _⟩ <;>
    rcases Nat.mod_two_eq_zero_or_one m with hm | hm <;>
    simp [ExtendedMantissa.shiftRightOne, ExtendedMantissa.roundedMantissa, ExtendedMantissa.accuracy,
      Accuracy.roundToNearestEven, hm] <;> omega

def dropped (m : Nat) (e : Int) : Nat := (Format.binary64.targetExponent (totalExponent m e) - e).toNat

theorem dropped_eq (m : Nat) (e : Int) : dropped m e = (max ((m.log2 : Int) + e - 52) (-1074) - e).toNat := by
  simp only [dropped, Format.targetExponent, totalExponent, Format.mantissaBits, Format.minExponent]
  norm_num
  omega

theorem div_dropped_lt (m : Nat) (e : Int) : m / 2 ^ dropped m e < 2 ^ 53 := by
  have hlog : m.log2 + 1 ≤ 53 + dropped m e := by
    rw [dropped_eq]
    omega
  rw [Nat.div_lt_iff_lt_mul (by positivity), ← Nat.pow_add]
  exact lt_of_lt_of_le Nat.lt_log2_self (Nat.pow_le_pow_right (by decide) hlog)

/-- Where the mantissa carries out of its 53 bits, one more is dropped. -/
theorem upTo_round_iff {r : Nat} {c : Int}
    (hr : r = (ExtendedMantissa.ofMantissaAndAccuracy m accuracy >>> dropped m e).roundedMantissa) :
    UpTo c (roundWithAccuracy .binary64 sign m e accuracy) ↔
      r = 0 ∨ r < 2 ^ 53 ∧ e + dropped m e ≤ c ∨ 2 ^ 53 ≤ r ∧ e + dropped m e + 1 ≤ c := by
  have hround : roundWithAccuracy .binary64 sign m e accuracy =
      if h : r / 2 ^ dropped r (e + dropped m e) = 0 then .zero sign
      else .finite sign (r / 2 ^ dropped r (e + dropped m e)) (e + dropped m e + dropped r (e + dropped m e))
        (Nat.pos_of_ne_zero h) := by
    have hfinal := shift_mantissa (ExtendedMantissa.ofMantissaAndAccuracy r .exact) (dropped r (e + dropped m e))
    rw [ofMantissaAndAccuracy_mantissa, hr] at hfinal
    simp only [roundWithAccuracy, shiftToTargetExponent, shiftToExponent, ← dropped.eq_def, ← hr] at hfinal ⊢
    simp only [hfinal]
  have hle : r ≤ 2 ^ 53 := by
    have hlt := div_dropped_lt m e
    have hbounds := (roundedMantissa_bounds (ExtendedMantissa.ofMantissaAndAccuracy m accuracy >>> dropped m e)).2
    rw [shift_mantissa, ofMantissaAndAccuracy_mantissa, ← hr] at hbounds
    omega
  have hlow : -1074 ≤ e + dropped m e := by
    rw [dropped_eq]
    omega
  -- What is rounded has at most 53 bits, and only a carry out of all ones is shifted once more.
  rcases Nat.eq_zero_or_pos r with hzero | hpos
  · rw [hround, dif_pos (by rw [hzero, Nat.zero_div])]
    exact ⟨fun _ => .inl hzero, fun _ => trivial⟩
  · rcases Nat.lt_or_ge r (2 ^ 53) with hlt | hge
    · have hlog : r.log2 < 53 := (Nat.log2_lt hpos.ne').2 hlt
      have hnone : dropped r (e + dropped m e) = 0 := by
        rw [dropped_eq]
        omega
      rw [hround, hnone, dif_neg (by simpa using hpos.ne')]
      simp only [UpTo]
      omega
    · obtain rfl : r = 2 ^ 53 := le_antisymm hle hge
      have hone : dropped (2 ^ 53) (e + dropped m e) = 1 := by
        rw [dropped_eq, Nat.log2_two_pow]
        omega
      rw [hround, hone, dif_neg (by decide)]
      simp only [UpTo]
      omega

theorem two_pow_le_mul (j : Nat) : 2 ^ (53 + j) ≤ (2 ^ 54 - 1) * 2 ^ j := by
  rw [Nat.pow_add]
  exact Nat.mul_le_mul_right _ (by decide)

/-- Half the way from the largest number to the next power of two, in units of the exponent of the mantissa. -/
theorem inRange_round (he : e ≤ 970) : InRange (roundWithAccuracy .binary64 sign m e accuracy) ↔
    m < (2 ^ 54 - 1) * 2 ^ (970 - e).toNat := by
  obtain ⟨j, hj⟩ : ∃ j, j = (970 - e).toNat := ⟨_, rfl⟩
  rw [InRange, upTo_round_iff rfl, ← hj]
  have hdrop := dropped_eq m e
  -- Only at the largest exponent does it depend on the bits whether rounding carries.
  rcases lt_trichotomy ((m.log2 : Int) + e - 52) 971 with hbelow | hat | habove
  · have hm : m < 2 ^ (m.log2 + 1) := Nat.lt_log2_self
    have hpow : 2 ^ (m.log2 + 1) ≤ 2 ^ (53 + j) := Nat.pow_le_pow_right (by decide) (by omega)
    have hle := two_pow_le_mul j
    refine iff_of_true ?_ (by omega)
    omega
  · have hd : dropped m e = j + 1 := by omega
    have hexponent : e + dropped m e = 971 := by omega
    have hcarry := roundedMantissa_shift_succ_iff (ExtendedMantissa.ofMantissaAndAccuracy m accuracy) j
    rw [ofMantissaAndAccuracy_mantissa, Nat.div_lt_iff_lt_mul (by positivity)] at hcarry
    rw [hexponent, hd, ← hcarry]
    omega
  · have hm : m ≠ 0 := by
      rintro rfl
      rw [Nat.log2_zero] at habove
      omega
    have hself : 2 ^ m.log2 ≤ m := Nat.log2_self_le hm
    have hpow : 2 ^ (54 + j) ≤ 2 ^ m.log2 := Nat.pow_le_pow_right (by decide) (by omega)
    have hle : (2 ^ 54 - 1) * 2 ^ j ≤ 2 ^ (54 + j) := by
      rw [Nat.pow_add]
      exact Nat.mul_le_mul_right _ (by decide)
    have hone : 1 ≤ m / 2 ^ dropped m e := by
      rw [Nat.le_div_iff_mul_le (by positivity), Nat.one_mul]
      exact le_trans (Nat.pow_le_pow_right (by decide) (by omega)) hself
    have hbounds := (roundedMantissa_bounds (ExtendedMantissa.ofMantissaAndAccuracy m accuracy >>> dropped m e)).1
    rw [shift_mantissa, ofMantissaAndAccuracy_mantissa] at hbounds
    refine iff_of_false ?_ (by omega)
    omega

/-! ## Decimals -/

/-- Half the way from the largest floating-point number to the next power of two: 2 ^ 1024 - 2 ^ 970. -/
def floatLimit : Nat := (2 ^ 54 - 1) * 2 ^ 970

theorem floatLimit_mul (j : Nat) : floatLimit * 2 ^ j = (2 ^ 54 - 1) * 2 ^ (970 + j) := by
  rw [floatLimit, Nat.pow_add, Nat.mul_assoc]

theorem floatLimit_pos : 0 < floatLimit := by
  rw [floatLimit]
  positivity

theorem floatLimit_le_pow {n : Nat} (h : 5 * 80 ≤ n) : floatLimit ≤ 10 ^ n :=
  calc floatLimit ≤ 2 ^ 54 * 2 ^ 970 := Nat.mul_le_mul_right _ (by decide)
    _ ≤ (2 ^ 16) ^ 80 := by
      rw [← pow_add, ← pow_mul]
      exact pow_le_pow_right₀ (by decide) (by decide)
    _ ≤ (10 ^ 5) ^ 80 := Nat.pow_le_pow_left (by decide) 80
    _ ≤ 10 ^ n := by
      rw [← pow_mul]
      exact pow_le_pow_right₀ (by decide) h

theorem inRange_mul {m : Nat} (hm : 0 < m <<< 53) (k : Nat) :
    InRange (mul .binary64 (.finite .positive (m <<< 53) (-53) hm)
      (.finite .positive (10 ^ k) 0 (Nat.pow_pos (by decide)))) ↔ m * 10 ^ k < floatLimit := by
  have hshift : (970 - (-53 + 0 : Int)).toNat = 970 + 53 := rfl
  rw [mul, inRange_round (by decide), hshift, ← floatLimit_mul, Nat.shiftLeft_eq, Nat.mul_right_comm,
    Nat.mul_lt_mul_right (by decide)]

theorem inRange_div {m : Nat} (hm : 0 < m) (k : Nat) :
    InRange (div .binary64 (.finite .positive m 0 hm) (.finite .positive (10 ^ k) 0 (Nat.pow_pos (by decide)))) ↔
      m < floatLimit * 10 ^ k := by
  obtain ⟨te, hte⟩ : ∃ te : Int, te = min (0 - 0)
    (Format.binary64.targetExponent (totalExponent m 0 - totalExponent (10 ^ k) 0)) := ⟨_, rfl⟩
  have hle : te ≤ 0 := hte ▸ min_le_left _ _
  have hshift : (970 - te).toNat = 970 + (0 - 0 - te).toNat := by omega
  simp only [div, divCore, ← hte]
  rw [inRange_round (by omega), hshift, Nat.div_lt_iff_lt_mul (by positivity), Nat.shiftLeft_eq, ← floatLimit_mul,
    Nat.mul_right_comm, Nat.mul_lt_mul_right (Nat.two_pow_pos _)]

theorem inRange_ofScientific (m : Nat) (e : Int) :
    InRange (UnpackedFloat.ofScientific .binary64 m e) ↔ m * 10 ^ e.toNat < floatLimit * 10 ^ (-e).toNat := by
  have hpos : ∀ n : Nat, 0 < floatLimit * 10 ^ n := fun n => Nat.mul_pos floatLimit_pos (by positivity)
  have hbits : (2 : Int) ^ Format.binary64.exponentBits = 2048 := rfl
  rw [UnpackedFloat.ofScientific, hbits]
  split_ifs with hzero hlarge hsmall hsign
  · exact iff_of_true trivial (by rw [hzero, Nat.zero_mul]; exact hpos _)
  · have hle := floatLimit_le_pow (n := e.toNat) (by omega)
    have hm : 10 ^ e.toNat ≤ m * 10 ^ e.toNat := Nat.le_mul_of_pos_left _ (Nat.pos_of_ne_zero hzero)
    have hnone : (-e).toNat = 0 := by omega
    rw [hnone, Nat.pow_zero, Nat.mul_one]
    exact iff_of_false id (by omega)
  · have hlog : m < 10 ^ (-e).toNat :=
      calc m < 2 ^ (m.log2 + 1) := Nat.lt_log2_self
        _ ≤ 10 ^ (m.log2 + 1) := Nat.pow_le_pow_left (by decide) _
        _ ≤ 10 ^ (-e).toNat := Nat.pow_le_pow_right (by decide) (by omega)
    have hnone : e.toNat = 0 := by omega
    rw [hnone, Nat.pow_zero, Nat.mul_one]
    exact iff_of_true trivial (lt_of_lt_of_le hlog (Nat.le_mul_of_pos_left _ floatLimit_pos))
  · have hnone : (-e).toNat = 0 := by omega
    rw [hnone, Nat.pow_zero, Nat.mul_one]
    exact inRange_mul _ _
  · have hnone : e.toNat = 0 := by omega
    rw [hnone, Nat.pow_zero, Nat.mul_one]
    exact inRange_div _ _

/-! ## Small decimals -/

theorem upTo_unpack {c : Int} (hc : -1074 ≤ c) {b : BitVec Format.binary64.numBits} (hones : unpackExponent b ≠ -1#11)
    (hle : ((unpackExponent b).toNat : Int) ≤ c + 1075) : UpTo c (UnpackedFloat.unpack .binary64 b) := by
  have hbias : (Format.binary64.exponentBias : Int) + Format.binary64.mantissaBitsWithoutImplicit = 1075 := rfl
  rw [UnpackedFloat.unpack]
  simp only [hbias, if_neg hones]
  split_ifs with hzero
  · trivial
  · have hnone : (unpackExponent b).toNat = 0 := by rw [hzero]; rfl
    rw [UpTo, hnone]
    omega
  · rw [UpTo]
    omega

theorem upTo_unpack_pack {c : Int} {u : UnpackedFloat} (hc : -1074 ≤ c) (hc' : c ≤ 971) (h : UpTo c u) :
    UpTo c (UnpackedFloat.unpack .binary64 (UnpackedFloat.pack .binary64 u)) := by
  refine upTo_unpack hc ((unpackExponent_pack_iff u).2 (h.mono hc')) ?_
  cases u with
  | zero s =>
    rw [UnpackedFloat.pack, packedZero, unpackExponent_packComponents]
    show ((0 : Nat) : Int) ≤ c + 1075
    omega
  | finite s m e hm =>
    rw [UpTo] at h
    rw [unpackExponent_pack_finite]
    split_ifs <;> omega
  | _ => exact h.elim

theorem mantissa_lt_of_unpack {b : BitVec Format.binary64.numBits} {hm : 0 < m}
    (h : UnpackedFloat.unpack .binary64 b = .finite sign m e hm) : m < 2 ^ 53 := by
  rw [UnpackedFloat.unpack] at h
  have hlt := (unpackMantissa b).isLt
  split_ifs at h with hones hzero hexponent hmantissa
  · cases h
    exact lt_trans hlt (by decide)
  · cases h
    exact (1#1 ++ unpackMantissa b).isLt

theorem upTo_round {c : Int} (hlog : (m.log2 : Int) + e - 51 ≤ c) (he : e + 1 ≤ c) (hc : -1073 ≤ c) :
    UpTo c (roundWithAccuracy .binary64 sign m e accuracy) := by
  have hdrop := dropped_eq m e
  rw [upTo_round_iff rfl]
  omega

theorem log2_shiftLeft {n : Nat} (hn : n ≠ 0) (k : Nat) : (n <<< k).log2 = n.log2 + k := by
  rw [Nat.shiftLeft_eq, Nat.log2_eq_iff (Nat.mul_ne_zero hn (by positivity)), Nat.add_right_comm, Nat.pow_add, Nat.pow_add]
  exact ⟨Nat.mul_le_mul_right _ (Nat.log2_self_le hn), Nat.mul_lt_mul_of_pos_right Nat.lt_log2_self (by positivity)⟩

theorem upTo_ofNat {n : Nat} (h : n < 2 ^ 53) : UpTo 1 (UnpackedFloat.ofNat .binary64 n) := by
  rcases Nat.eq_zero_or_pos n with rfl | hpos
  · trivial
  · have hlog : n.log2 < 53 := (Nat.log2_lt hpos.ne').2 h
    have hcompare : compare (n : Int) 0 = .gt := Int.compare_eq_gt.2 (by omega)
    rw [UnpackedFloat.ofNat, UnpackedFloat.ofInt, UnpackedFloat.normalize, hcompare]
    refine upTo_round ?_ ?_ (by omega)
    · rw [Int.toNat_natCast, log2_shiftLeft hpos.ne']
      omega
    · omega

theorem log2_mul_lt {m n a b : Nat} (hm : m < 2 ^ a) (hn : n < 2 ^ b) : (m * n).log2 < a + b ∨ m * n = 0 := by
  rcases Nat.eq_zero_or_pos (m * n) with hzero | hpos
  · exact .inr hzero
  · exact .inl ((Nat.log2_lt hpos.ne').2 (Nat.pow_add 2 a b ▸ Nat.mul_lt_mul'' hm hn))

/-- A finite number that is neither tiny nor huge. -/
def isMiddling : UnpackedFloat → Bool
  | .finite _ _ e _ => -100 ≤ e && e ≤ 100
  | _ => false

theorem powers_isMiddling : ∀ x ∈ Float.exactlyRepresentablePowersOfTen.toList, isMiddling x.toModel.unpack := by
  decide +kernel

theorem power_isMiddling {e : Nat} (h : e < Float.exactlyRepresentablePowersOfTen.size) :
    isMiddling Float.exactlyRepresentablePowersOfTen[e].toModel.unpack :=
  powers_isMiddling _ (Array.mem_toList_iff.2 (Array.getElem_mem h))

variable {a b : Float.Model}

theorem exists_finite_of_isMiddling (h : isMiddling a.unpack) :
    ∃ s m e hm, a.unpack = .finite s m e hm ∧ m < 2 ^ 53 ∧ -100 ≤ e ∧ e ≤ 100 := by
  cases ha : a.unpack with
  | finite s m e hm =>
    rw [ha] at h
    have he : -100 ≤ e ∧ e ≤ 100 := by simpa [isMiddling] using h
    exact ⟨s, m, e, hm, rfl, mantissa_lt_of_unpack ha, he⟩
  | _ =>
    rw [ha] at h
    cases h

theorem UpTo.exists_finite {c : Int} (h : UpTo c a.unpack) :
    (∃ s, a.unpack = .zero s) ∨ ∃ s m e hm, a.unpack = .finite s m e hm ∧ m < 2 ^ 53 ∧ e ≤ c := by
  cases ha : a.unpack with
  | zero s => exact .inl ⟨s, rfl⟩
  | finite s m e hm =>
    rw [ha] at h
    exact .inr ⟨s, m, e, hm, rfl, mantissa_lt_of_unpack ha, h⟩
  | _ =>
    rw [ha] at h
    exact h.elim

theorem inRange_mul_of_isMiddling (ha : UpTo 1 a.unpack) (hb : isMiddling b.unpack) :
    InRange (mul .binary64 a.unpack b.unpack) := by
  obtain ⟨s, n, f, hn, hb, hnlt, -, hf⟩ := exists_finite_of_isMiddling hb
  rw [hb]
  rcases ha.exists_finite with ⟨t, ha⟩ | ⟨t, m, e, hm, ha, hmlt, he⟩
  · rw [ha]
    trivial
  · have hlog := log2_mul_lt hmlt hnlt
    have hpos : m * n ≠ 0 := (Nat.mul_pos hm hn).ne'
    rw [ha]
    exact upTo_round (by omega) (by omega) (by omega)

theorem inRange_div_of_isMiddling (ha : UpTo 1 a.unpack) (hb : isMiddling b.unpack) :
    InRange (div .binary64 a.unpack b.unpack) := by
  obtain ⟨s, n, f, hn, hb, -, hf, -⟩ := exists_finite_of_isMiddling hb
  rw [hb]
  rcases ha.exists_finite with ⟨t, ha⟩ | ⟨t, m, e, hm, ha, hmlt, he⟩
  · rw [ha]
    trivial
  · have hlog : m.log2 < 53 := (Nat.log2_lt hm.ne').2 hmlt
    obtain ⟨te, hte⟩ : ∃ te : Int, te = min (e - f)
      (Format.binary64.targetExponent (totalExponent m e - totalExponent n f)) := ⟨_, rfl⟩
    have hle : te ≤ e - f := hte ▸ min_le_left _ _
    -- The quotient has no more bits than the shifted mantissa, and the shift is taken back by the exponent.
    have hquotient : (m <<< (e - f - te).toNat / n).log2 ≤ m.log2 + (e - f - te).toNat := by
      rw [← log2_shiftLeft hm.ne', Nat.log2_eq_log_two, Nat.log2_eq_log_two]
      exact Nat.log_mono_right (Nat.div_le_self _ _)
    rw [ha]
    simp only [div, divCore, ← hte]
    exact upTo_round (by omega) (by omega) (by omega)

theorem upTo_toFloat {m : Nat} (h : m < 2 ^ 53) : UpTo 1 m.toUInt64.toFloat.toModel.unpack := by
  have hm : m.toUInt64.toNat = m := Nat.mod_eq_of_lt (lt_trans h (by decide))
  refine upTo_unpack_pack (by decide) (by decide) (u := UnpackedFloat.ofNat .binary64 m.toUInt64.toNat) ?_
  rw [hm]
  exact upTo_ofNat h

theorem two_pow_le_floatLimit {k : Nat} (h : k ≤ 53 + 970) : 2 ^ k ≤ floatLimit :=
  le_trans (pow_le_pow_right₀ (by decide) h) (two_pow_le_mul 970)

theorem few_digits_lt {m e : Nat} (hm : m < 2 ^ 53) (he : e ≤ 22) : m * 10 ^ e < floatLimit :=
  calc m * 10 ^ e < 2 ^ 53 * 10 ^ 22 :=
      Nat.mul_lt_mul_of_lt_of_le hm (Nat.pow_le_pow_right (by decide) he) (by positivity)
    _ ≤ 2 ^ 127 := by decide
    _ ≤ floatLimit := two_pow_le_floatLimit (by decide)

theorem isFinite_ofScientific_iff (m e : Nat) :
    (Binary.ofFloat (Float.ofScientific m false e)).isFinite ↔ m * 10 ^ e < floatLimit := by
  rw [Float.ofScientific]
  split
  · next hfew =>
    have hpower := power_isMiddling (Nat.lt_succ_of_le hfew.2)
    exact iff_of_true ((isFinite_ofModel_pack_iff _).2 (inRange_mul_of_isMiddling (upTo_toFloat hfew.1) hpower))
      (few_digits_lt hfew.1 hfew.2)
  · have hnone : (-(e : Int)).toNat = 0 := by omega
    show (Binary.ofFloat (.ofModel (.pack (UnpackedFloat.ofScientific .binary64 m e)))).isFinite ↔ _
    rw [isFinite_ofModel_pack_iff, inRange_ofScientific, hnone, Nat.pow_zero, Nat.mul_one, Int.toNat_natCast]

theorem isFinite_ofScientific_fraction_iff (m e : Nat) :
    (Binary.ofFloat (Float.ofScientific m true e)).isFinite ↔ m < floatLimit * 10 ^ e := by
  rw [Float.ofScientific]
  split
  · next hfew =>
    have hpower := power_isMiddling (Nat.lt_succ_of_le hfew.2)
    have hlt : m < floatLimit := lt_of_lt_of_le hfew.1 (two_pow_le_floatLimit (by decide))
    exact iff_of_true ((isFinite_ofModel_pack_iff _).2 (inRange_div_of_isMiddling (upTo_toFloat hfew.1) hpower))
      (lt_of_lt_of_le hlt (Nat.le_mul_of_pos_right _ (by positivity)))
  · have hnone : (-(e : Int)).toNat = 0 := by omega
    rw [if_pos rfl, Int.negOfNat_eq]
    show (Binary.ofFloat (.ofModel (.pack (UnpackedFloat.ofScientific .binary64 m (-e))))).isFinite ↔ _
    rw [isFinite_ofModel_pack_iff, inRange_ofScientific, hnone, neg_neg, Int.toNat_natCast, Nat.pow_zero, Nat.mul_one]

/-! ## Numbers read and rounded -/

theorem isFinite_neg_iff (x : Float) : (Binary.ofFloat (-x)).isFinite ↔ (Binary.ofFloat x).isFinite := by
  have hneg : InRange x.toModel.unpack.neg ↔ InRange x.toModel.unpack := by
    cases x.toModel.unpack <;> rfl
  rw [isFinite_iff_inRange x, ← hneg]
  exact isFinite_ofModel_pack_iff _

theorem isFinite_nearest_iff (negative : Bool) (digits : Nat) (exponent : Int) :
    (Binary.ofFloat (nearest negative digits exponent)).isFinite ↔
      digits * 10 ^ exponent.toNat < floatLimit * 10 ^ (-exponent).toNat := by
  have hsign : ∀ x : Float, (Binary.ofFloat (if negative then -x else x)).isFinite ↔ (Binary.ofFloat x).isFinite := by
    intro x
    cases negative
    · rfl
    · exact isFinite_neg_iff x
  have hzero : (Binary.ofFloat 0).isFinite := by decide
  rw [nearest, hsign]
  split_ifs with hnone hlarge hfraction
  · refine iff_of_true hzero ?_
    rcases hnone with rfl | htiny
    · rw [Nat.zero_mul]
      exact Nat.mul_pos floatLimit_pos (by positivity)
    · have hlt : digits < 10 ^ (-exponent).toNat :=
        calc digits < 2 ^ (digits.log2 + 1) := Nat.lt_log2_self
          _ ≤ 10 ^ (digits.log2 + 1) := Nat.pow_le_pow_left (by decide) _
          _ ≤ 10 ^ (-exponent).toNat := Nat.pow_le_pow_right (by decide) (by omega)
      have hwhole : exponent.toNat = 0 := by omega
      rw [hwhole, Nat.pow_zero, Nat.mul_one]
      exact lt_of_lt_of_le hlt (Nat.le_mul_of_pos_left _ floatLimit_pos)
  · have hpos : 0 < digits := by omega
    have hwhole : (-exponent).toNat = 0 := by omega
    have hat : floatLimit ≤ digits * 10 ^ 400 :=
      le_trans (floatLimit_le_pow (by decide)) (Nat.le_mul_of_pos_left _ hpos)
    have hbeyond : floatLimit ≤ digits * 10 ^ exponent.toNat :=
      le_trans (floatLimit_le_pow (by omega)) (Nat.le_mul_of_pos_left _ hpos)
    rw [isFinite_ofScientific_iff, hwhole, Nat.pow_zero, Nat.mul_one]
    exact iff_of_false (not_lt.2 hat) (not_lt.2 hbeyond)
  · have hwhole : exponent.toNat = 0 := by omega
    rw [isFinite_ofScientific_fraction_iff, hwhole, Nat.pow_zero, Nat.mul_one]
  · have hwhole : (-exponent).toNat = 0 := by omega
    rw [isFinite_ofScientific_iff, hwhole, Nat.pow_zero, Nat.mul_one]

theorem ofInt_eq_none_iff (n : Int) : ofInt? n = none ↔ floatLimit ≤ n.natAbs := by
  have hzero : (-(0 : Int)).toNat = 0 := rfl
  have hfinite := isFinite_nearest_iff (n < 0) n.natAbs 0
  simp only [Int.toNat_zero, hzero, pow_zero, mul_one] at hfinite
  rw [ofInt?]
  split
  · next h => exact iff_of_false (Option.some_ne_none _) (not_le.2 (hfinite.1 h))
  · next h => exact iff_of_true rfl (not_lt.1 (mt hfinite.2 h))

end Stencil.Number
