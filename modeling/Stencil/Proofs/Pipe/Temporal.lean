import Mathlib
import Stencil.Proofs.Calendar.DayNumber
import Stencil.Proofs.Outcome
import Stencil.Proofs.Pipe.Registration

/-!
Counting the days from a date to the present one. Main statement: the count and its description depend on the two dates
alone, the present one and the one on the wall clock of the value; neither times of day nor offsets count.
-/

namespace Stencil

open Calendar Outcome

variable {now m other : Moment} {d : Date} {v : Value} {days count : Int} {text : String}

namespace Calendar.Moment

theorem since_of_zone_eq (h : m.zone = other.zone) : m.since other = .ok (m.ahead other) := if_pos h

theorem date_inZoneOf (m other : Moment) : (m.inZoneOf other).date = m.date := by
  rw [inZoneOf]
  split <;> rfl

theorem zone_inZoneOf (h : m.zone = none) : (m.inZoneOf other).zone = other.zone := by
  rw [inZoneOf]
  split
  · next z hz => exact hz.symm
  · next hz => exact h.trans hz.symm

theorem ahead_startOfDay (m other : Moment) :
    m.startOfDay.ahead other.startOfDay = other.date.daysTo m.date * dayLength := by
  simp [ahead, startOfDay, sinceMidnight, Date.daysTo]

end Calendar.Moment

/-- A date, or a moment on whose wall clock the date stands. -/
inductive Value.FallsOn : Value → Date → Prop
  | date (d : Date) : FallsOn (.date d) d
  | moment (m : Moment) : FallsOn (.moment m) m.date

namespace Value

theorem FallsOn.exists_moment (h : v.FallsOn d) (today : Date) : ∃ m, v.moment? today = some m ∧ m.date = d := by
  cases h with
  | date d => exact ⟨.midnight d, rfl, rfl⟩
  | moment m => exact ⟨m, rfl, rfl⟩

theorem FallsOn.isAbsent_eq (h : v.FallsOn d) : v.isAbsent = false := by
  cases h <;> rfl

theorem daysUntil_of_moment (hnow : now.zone = none) (h : v.moment? now.date = some m) :
    v.daysUntil? now = .ok (some (m.date.daysTo now.date)) := by
  have hzone : (now.inZoneOf m).startOfDay.zone = m.startOfDay.zone := Moment.zone_inZoneOf hnow
  have hlength : (dayLength : Int) ≠ 0 := by decide
  rw [daysUntil?, h]
  dsimp only
  rw [Moment.since_of_zone_eq hzone, ok_bind, Moment.ahead_startOfDay, Moment.date_inZoneOf,
    Int.mul_ediv_cancel _ hlength]
  rfl

theorem daysUntil_of_no_moment (h : v.moment? now.date = none) : v.daysUntil? now = .ok none := by
  rw [daysUntil?, h]

theorem daysUntil_midnight (hnow : now.zone = none) (v : Value) :
    v.daysUntil? now = v.daysUntil? (.midnight now.date) := by
  have hdate : (Moment.midnight now.date).date = now.date := rfl
  cases h : v.moment? now.date with
  | none => rw [daysUntil_of_no_moment h, daysUntil_of_no_moment (hdate ▸ h)]
  | some m => rw [daysUntil_of_moment hnow h, daysUntil_of_moment rfl (hdate ▸ h), hdate]

end Value

namespace Pipe

structure Tells (days : Int) (text : String) : Prop where
  today : text = "today" ↔ days = 0
  tomorrow : text = "tomorrow" ↔ days = -1
  yesterday : text = "yesterday" ↔ days = 1
  ahead : days < -1 → text = toString days.natAbs ++ " days from now"
  ago : 1 < days → text = toString days.natAbs ++ " days ago"

theorem describeDays_ahead (h : days < -1) : describeDays days = toString days.natAbs ++ " days from now" := by
  rw [describeDays, if_neg (by omega), if_neg (by omega), if_neg (by omega), if_pos (by omega)]

theorem describeDays_ago (h : 1 < days) : describeDays days = toString days.natAbs ++ " days ago" := by
  rw [describeDays, if_neg (by omega), if_neg (by omega), if_neg (by omega), if_neg (by omega)]

theorem blank_mem_describeDays_iff : ' ' ∈ (describeDays days).toList ↔ days < -1 ∨ 1 < days := by
  by_cases hahead : days < -1
  · simp [describeDays_ahead hahead, hahead]
  · by_cases hago : 1 < days
    · simp [describeDays_ago hago, hago]
    · have hfew : days = -1 ∨ days = 0 ∨ days = 1 := by omega
      rcases hfew with rfl | rfl | rfl <;> decide

theorem last_describeDays_iff (h : days < -1 ∨ 1 < days) :
    (describeDays days).toList.getLast? = some 'w' ↔ days < 0 := by
  rcases h with h | h
  · have hneg : days < 0 := by omega
    simp [describeDays_ahead h, hneg, List.getLast?_append]
  · have hneg : ¬ days < 0 := by omega
    simp [describeDays_ago h, hneg, List.getLast?_append]

theorem describeDays_injective (h : describeDays days = describeDays count) : days = count := by
  have hblank : (days < -1 ∨ 1 < days) ↔ (count < -1 ∨ 1 < count) := by
    rw [← blank_mem_describeDays_iff, ← blank_mem_describeDays_iff, h]
  -- Only the far counts have a blank in them, and their last letter shows the sign.
  by_cases hfar : days < -1 ∨ 1 < days
  · have hsign : days < 0 ↔ count < 0 := by
      rw [← last_describeDays_iff hfar, ← last_describeDays_iff (hblank.1 hfar), h]
    rcases hfar with hahead | hago
    · have hcount : count < -1 := by omega
      rw [describeDays_ahead hahead, describeDays_ahead hcount, String.append_left_inj] at h
      have habs : days.natAbs = count.natAbs := Nat.repr_inj.1 h
      omega
    · have hcount : 1 < count := by omega
      rw [describeDays_ago hago, describeDays_ago hcount, String.append_left_inj] at h
      have habs : days.natAbs = count.natAbs := Nat.repr_inj.1 h
      omega
  · have hdays : days = -1 ∨ days = 0 ∨ days = 1 := by omega
    have hcount : count = -1 ∨ count = 0 ∨ count = 1 := by omega
    rcases hdays with rfl | rfl | rfl <;> rcases hcount with rfl | rfl | rfl <;> revert h <;> decide

theorem describeDays_eq_iff (h : describeDays count = text) : describeDays days = text ↔ days = count := by
  rw [← h]
  exact ⟨describeDays_injective, fun hdays => hdays ▸ rfl⟩

theorem tells_describeDays (days : Int) : Tells days (describeDays days) where
  today := describeDays_eq_iff (by decide)
  tomorrow := describeDays_eq_iff (by decide)
  yesterday := describeDays_eq_iff (by decide)
  ahead := describeDays_ahead
  ago := describeDays_ago

theorem daysAfter_of_moment (hnow : now.zone = none) (h : v.moment? now.date = some m) (args : List Value) :
    daysAfter now args v = .ok (.int (m.date.daysTo now.date)) := by
  rw [daysAfter, Value.daysUntil_of_moment hnow h]
  rfl

theorem daysFromNow_of_moment (hnow : now.zone = none) (h : v.moment? now.date = some m) (args : List Value) :
    daysFromNow now args v = .ok (.text (describeDays (m.date.daysTo now.date))) := by
  rw [daysFromNow, Value.daysUntil_of_moment hnow h]
  rfl

end Pipe

namespace Registry

theorem find_daysAfter (now : Moment) :
    (standardAt now).find? "date.daysAfter" = some (Pipe.daysAfter now).passingAbsence := rfl

theorem find_daysFromNow (now : Moment) :
    (standardAt now).find? "date.daysFromNow" = some (Pipe.daysFromNow now).passingAbsence := rfl

theorem standardAt_eq_standard (hnow : now.zone = none) : standardAt now = standard now.date := by
  have hafter : Pipe.daysAfter now = Pipe.daysAfter (.midnight now.date) := by
    funext args v
    rw [Pipe.daysAfter, Pipe.daysAfter, Value.daysUntil_midnight hnow]
  have hfromNow : Pipe.daysFromNow now = Pipe.daysFromNow (.midnight now.date) := by
    funext args v
    rw [Pipe.daysFromNow, Pipe.daysFromNow, Value.daysUntil_midnight hnow]
  have hpipes : datePipes now = datePipes (.midnight now.date) := by
    rw [datePipes, datePipes, hafter, hfromNow]
    rfl
  rw [standard, standardAt, standardAt, hpipes]

theorem apply_daysAfter (hnow : now.zone = none) (hv : v.FallsOn d) (args : List Value) :
    (standardAt now).apply "date.daysAfter" args v = .ok (.int (d.daysTo now.date)) := by
  obtain ⟨m, hm, rfl⟩ := hv.exists_moment now.date
  rw [apply_of_find (find_daysAfter now), Pipe.passingAbsence, hv.isAbsent_eq]
  exact Pipe.daysAfter_of_moment hnow hm args

theorem apply_daysFromNow (hnow : now.zone = none) (hv : v.FallsOn d) (args : List Value) :
    (standardAt now).apply "date.daysFromNow" args v = .ok (.text (Pipe.describeDays (d.daysTo now.date))) := by
  obtain ⟨m, hm, rfl⟩ := hv.exists_moment now.date
  rw [apply_of_find (find_daysFromNow now), Pipe.passingAbsence, hv.isAbsent_eq]
  exact Pipe.daysFromNow_of_moment hnow hm args

theorem days_depend_on_dates (hnow : now.zone = none) (hv : v.FallsOn d) (args : List Value) :
    (standardAt now).apply "date.daysAfter" args v = .ok (.int ((now.date.dayNumber : Int) - d.dayNumber)) ∧
      (now.date.isValid → d.isValid → ∀ n : Nat,
        ((now.date.dayNumber : Int) - d.dayNumber = n ↔ d.advance n = now.date) ∧
        ((now.date.dayNumber : Int) - d.dayNumber = -n ↔ now.date.advance n = d)) ∧
      (∃ text, (standardAt now).apply "date.daysFromNow" args v = .ok (.text text) ∧
        Pipe.Tells ((now.date.dayNumber : Int) - d.dayNumber) text) ∧
      ∀ now' w args', now'.zone = none → now'.date = now.date → w.FallsOn d →
        (standardAt now').apply "date.daysAfter" args' w = (standardAt now).apply "date.daysAfter" args v ∧
        (standardAt now').apply "date.daysFromNow" args' w = (standardAt now).apply "date.daysFromNow" args v := by
  refine ⟨apply_daysAfter hnow hv args, fun htoday hd n => ?_,
    ⟨_, apply_daysFromNow hnow hv args, Pipe.tells_describeDays _⟩, fun now' w args' hnow' hdate hw => ⟨?_, ?_⟩⟩
  · have htoday := Date.Proper.of_isValid htoday
    have hd := Date.Proper.of_isValid hd
    refine ⟨hd.daysTo_eq_iff htoday, ?_⟩
    rw [← htoday.daysTo_eq_iff hd, ← Date.daysTo, Date.daysTo_eq_neg, neg_inj]
  · rw [apply_daysAfter hnow' hw, apply_daysAfter hnow hv, hdate]
  · rw [apply_daysFromNow hnow' hw, apply_daysFromNow hnow hv, hdate]

def lateEvening : Moment := ⟨⟨2024, 3, 1⟩, 23, 59, 59, 0, none⟩

/-- Twelve hours west of Greenwich the day has just begun. -/
def earlyFarWest : Moment := ⟨⟨2024, 2, 28⟩, 0, 30, 0, 0, some (.away (-43200000000))⟩

theorem days_depend_on_dates_leap_day :
    lateEvening.zone = none ∧ (Value.moment earlyFarWest).FallsOn ⟨2024, 2, 28⟩ ∧
      (standardAt lateEvening).apply "date.daysAfter" [] (.moment earlyFarWest) = .ok (.int 2) ∧
      (⟨2024, 2, 28⟩ : Date).advance 2 = ⟨2024, 3, 1⟩ ∧
      (standardAt lateEvening).apply "date.daysFromNow" [] (.moment earlyFarWest) = .ok (.text "2 days ago") ∧
      (standardAt (.midnight ⟨2024, 3, 1⟩)).apply "date.daysFromNow" [] (.date ⟨2024, 2, 28⟩) =
        .ok (.text "2 days ago") := by
  have hnow : lateEvening.zone = none := rfl
  have hvalue : (Value.moment earlyFarWest).FallsOn ⟨2024, 2, 28⟩ := .moment earlyFarWest
  have hcount : (lateEvening.date.dayNumber : Int) - (⟨2024, 2, 28⟩ : Date).dayNumber = 2 := by decide +kernel
  obtain ⟨hafter, hadvance, ⟨text, htext, htells⟩, hsame⟩ := days_depend_on_dates hnow hvalue []
  rw [hcount] at hafter hadvance htells
  have htwo : text = "2 days ago" := htells.ago (by decide)
  refine ⟨hnow, hvalue, hafter, ((hadvance (by decide) (by decide) 2).1).1 rfl, htwo ▸ htext, ?_⟩
  rw [(hsame (.midnight ⟨2024, 3, 1⟩) (.date ⟨2024, 2, 28⟩) [] rfl rfl (.date _)).2, htext, htwo]

end Registry

end Stencil
