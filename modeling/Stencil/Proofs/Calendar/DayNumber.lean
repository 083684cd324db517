import Mathlib.Tactic.SplitIfs
import Stencil.Calendar.Date

/-!
Day numbers. Main statement: the day numbers of two dates are as far apart as the dates are, counted day by day over the
ends of months and years.
-/

namespace Stencil.Calendar

variable {d e : Date} {year month n : Nat}

def daysInYear (year : Nat) : Nat := if isLeap year then 366 else 365

theorem isLeap_iff : isLeap year ↔ 4 ∣ year ∧ (¬ 100 ∣ year ∨ 400 ∣ year) := by
  simp [isLeap, Nat.dvd_iff_mod_eq_zero]

theorem daysBeforeYear_succ (h : 0 < year) : daysBeforeYear (year + 1) = daysBeforeYear year + daysInYear year := by
  cases year with
  | zero => cases h
  | succ y =>
    have h4 : 100 ∣ y + 1 → 4 ∣ y + 1 := Nat.dvd_trans ⟨25, rfl⟩
    have h100 : 400 ∣ y + 1 → 100 ∣ y + 1 := Nat.dvd_trans ⟨4, rfl⟩
    have hless : y / 100 ≤ y / 4 := Nat.div_le_div_left (by decide) (by decide)
    -- A quotient grows by one where the year is a multiple of its divisor.
    simp only [daysBeforeYear, daysInYear, isLeap_iff, Nat.add_sub_cancel, Nat.succ_div]
    grind

theorem daysBeforeMonth_succ (h : 0 < month) :
    daysBeforeMonth year (month + 1) = daysBeforeMonth year month + daysInMonth year month := by
  cases month with
  | zero => cases h
  | succ month => rfl

theorem daysInMonth_pos (year month : Nat) : 0 < daysInMonth year month := by
  unfold daysInMonth
  split_ifs <;> decide

theorem daysBeforeMonth_december (year : Nat) : daysBeforeMonth year 12 + 31 = daysInYear year := by
  simp only [daysBeforeMonth, daysInMonth, daysInYear]
  cases isLeap year <;> rfl

namespace Date

/-- A day of the calendar; years go on without end. -/
structure Proper (d : Date) : Prop where
  year_pos : 0 < d.year
  month_pos : 0 < d.month
  month_le : d.month ≤ 12
  day_pos : 0 < d.day
  day_le : d.day ≤ daysInMonth d.year d.month

theorem Proper.of_isValid (h : d.isValid) : d.Proper := by
  simp only [isValid, Bool.and_eq_true, decide_eq_true_eq] at h
  obtain ⟨⟨⟨⟨⟨hyear, -⟩, hmonth⟩, hmonth'⟩, hday⟩, hday'⟩ := h
  exact ⟨hyear, hmonth, hmonth', hday, hday'⟩

/-! ## One day on -/

theorem Proper.next (h : d.Proper) : d.next.Proper := by
  rw [Date.next]
  split
  · next hday => exact ⟨h.year_pos, h.month_pos, h.month_le, Nat.succ_pos _, hday⟩
  · split
    · next hmonth => exact ⟨h.year_pos, Nat.succ_pos _, hmonth, Nat.one_pos, daysInMonth_pos _ _⟩
    · exact ⟨Nat.succ_pos _, Nat.one_pos, Nat.succ_pos 11, Nat.one_pos, daysInMonth_pos _ _⟩

theorem Proper.dayNumber_next (h : d.Proper) : d.next.dayNumber = d.dayNumber + 1 := by
  rw [Date.next]
  split
  · rfl
  · next hday =>
    have hlast : d.day = daysInMonth d.year d.month := Nat.le_antisymm h.day_le (Nat.le_of_not_lt hday)
    split
    · simp only [dayNumber, ordinalInYear, daysBeforeMonth_succ h.month_pos, hlast, Nat.add_assoc]
    · next hmonth =>
      have hdecember : d.month = 12 := Nat.le_antisymm h.month_le (Nat.le_of_not_lt hmonth)
      have hday31 : d.day = 31 := by
        rw [hlast, hdecember]
        rfl
      have hyear : daysBeforeYear (d.year + 1) = daysBeforeYear d.year + (daysBeforeMonth d.year 12 + 31) := by
        rw [daysBeforeYear_succ h.year_pos, daysBeforeMonth_december]
      rw [dayNumber, dayNumber, ordinalInYear, ordinalInYear, hyear, hdecember, hday31, daysBeforeMonth,
        Nat.zero_add]

def first : Date := ⟨1, 1, 1⟩

theorem Proper.exists_next_eq (h : d.Proper) (hfirst : d ≠ first) : ∃ e : Date, e.Proper ∧ e.next = d := by
  obtain ⟨year, month, day⟩ := d
  obtain ⟨hyear : 0 < year, hmonth : 0 < month, hmonth' : month ≤ 12, hday : 0 < day,
    hday' : day ≤ daysInMonth year month⟩ := h
  -- The day before ends a year, ends a month of the same year, or is in the same month.
  by_cases h1 : day = 1
  · subst h1
    by_cases h2 : month = 1
    · subst h2
      have hyear' : 1 < year := Nat.lt_of_le_of_ne hyear fun he => hfirst (he ▸ rfl)
      refine ⟨⟨year - 1, 12, 31⟩, ⟨Nat.sub_pos_of_lt hyear', by simp, by simp, by simp, Nat.le_refl 31⟩, ?_⟩
      simp [Date.next, daysInMonth, Nat.sub_add_cancel hyear]
    · have hbefore : 0 < month - 1 ∧ month - 1 < 12 := by omega
      refine ⟨⟨year, month - 1, daysInMonth year (month - 1)⟩,
        ⟨hyear, hbefore.1, Nat.le_of_lt hbefore.2, daysInMonth_pos _ _, Nat.le_refl _⟩, ?_⟩
      simp [Date.next, hbefore.2, Nat.sub_add_cancel hmonth]
  · have hbefore : 0 < day - 1 ∧ day - 1 < daysInMonth year month := by omega
    refine ⟨⟨year, month, day - 1⟩, ⟨hyear, hmonth, hmonth', hbefore.1, Nat.le_of_lt hbefore.2⟩, ?_⟩
    simp [Date.next, hbefore.2, Nat.sub_add_cancel hday]

/-! ## Any number of days on -/

theorem advance_succ (d : Date) (n : Nat) : d.advance (n + 1) = (d.advance n).next := by
  induction n generalizing d with
  | zero => rfl
  | succ n ih => rw [advance, ih, advance]

theorem Proper.advance (h : d.Proper) (n : Nat) : (d.advance n).Proper := by
  induction n with
  | zero => exact h
  | succ n ih => exact advance_succ d n ▸ ih.next

theorem Proper.dayNumber_advance (h : d.Proper) (n : Nat) : (d.advance n).dayNumber = d.dayNumber + n := by
  induction n with
  | zero => rfl
  | succ n ih => rw [advance_succ, (h.advance n).dayNumber_next, ih, Nat.add_assoc]

theorem Proper.dayNumber_pos (h : d.Proper) : 0 < d.dayNumber :=
  Nat.lt_of_lt_of_le h.day_pos (Nat.le_trans (Nat.le_add_left _ _) (Nat.le_add_left _ _))

theorem Proper.advance_first (h : d.Proper) : first.advance (d.dayNumber - 1) = d := by
  induction hn : d.dayNumber generalizing d with
  | zero => exact absurd hn (Nat.ne_of_gt h.dayNumber_pos)
  | succ n ih =>
    by_cases hfirst : d = first
    · subst hfirst
      obtain rfl : n = 0 := (Nat.succ.inj hn).symm
      rfl
    · obtain ⟨e, he, rfl⟩ := h.exists_next_eq hfirst
      have hbefore : e.dayNumber = n := by
        rw [he.dayNumber_next] at hn
        exact Nat.succ.inj hn
      have hpos : 0 < n := hbefore ▸ he.dayNumber_pos
      rw [Nat.add_sub_cancel, ← ih he hbefore, ← advance_succ, Nat.sub_add_cancel hpos]

theorem Proper.eq_of_dayNumber (hd : d.Proper) (he : e.Proper) (h : d.dayNumber = e.dayNumber) : d = e := by
  rw [← hd.advance_first, h, he.advance_first]

theorem Proper.advance_eq_iff (hd : d.Proper) (he : e.Proper) : d.advance n = e ↔ d.dayNumber + n = e.dayNumber := by
  constructor
  · rintro rfl
    exact (hd.dayNumber_advance n).symm
  · intro h
    exact (hd.advance n).eq_of_dayNumber he ((hd.dayNumber_advance n).trans h)

/-- No leap day ends the February of 1900. -/
example : (⟨1900, 2, 28⟩ : Date).advance 1 = ⟨1900, 3, 1⟩ ∧ (⟨1999, 12, 31⟩ : Date).advance 60 = ⟨2000, 2, 29⟩ := by
  decide +kernel

/-- Days from one date to another, fewer than none where the other is earlier. -/
def daysTo (d e : Date) : Int := (e.dayNumber : Int) - d.dayNumber

theorem daysTo_eq_neg (d e : Date) : d.daysTo e = -e.daysTo d := by
  rw [daysTo, daysTo, Int.neg_sub]

theorem Proper.daysTo_eq_iff (hd : d.Proper) (he : e.Proper) : d.daysTo e = n ↔ d.advance n = e := by
  rw [hd.advance_eq_iff he, daysTo]
  omega

end Date

end Stencil.Calendar
