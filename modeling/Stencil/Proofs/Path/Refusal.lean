import Stencil.Proofs.Number.Whole
import Stencil.Proofs.Path.Fields

/-!
Walks that end in an error. Main statement: a walk fails exactly where a sequence meets a numeral that no whole number
is read from, and it leads to absence where the sequence has nothing at the segment.
-/

namespace Stencil

open Outcome

variable {v w : Value} {read : Int → Option Value} {segment : String} {segments rest : List String} {index : Option Int}
  {fault : Number.WholeFault} {err : Error}

def Value.indexed? : Value → Option (Int → Option Value)
  | .list items => some (elementAt? items)
  | .tuple items => some (elementAt? items)
  | .tree kind raw => if raw.isList then some (element? kind raw) else none
  | _ => none

theorem wholeOfText_eq_error_iff (s : String) :
    wholeOfText? s = .error err ↔ ∃ fault, Number.readWhole s = .error fault ∧ err = .refused fault.refusal := by
  rw [wholeOfText?]
  cases Number.readWhole s with
  | ok n => simp
  | error fault => simp [eq_comm]

namespace Path

theorem stepInto_eq_error_iff : stepInto segment read = .error err ↔
    ∃ fault, Number.readWhole segment = .error fault ∧ err = .refused fault.refusal := by
  rw [stepInto, bind_eq_error_iff, wholeOfText_eq_error_iff, or_iff_left]
  rintro ⟨index, -, h⟩
  cases index <;> cases h

theorem step_of_indexed (h : v.indexed? = some read) (segment : String) : step v segment = stepInto segment read := by
  cases v with
  | list items => cases h; rfl
  | tuple items => cases h; rfl
  | tree kind raw =>
    rw [Value.indexed?] at h
    split at h
    · next hlist =>
      cases h
      rw [step, if_pos hlist]
    · cases h
  | _ => cases h

theorem step_of_not_indexed (h : v.indexed? = none) (segment : String) : ∃ w, step v segment = .ok w := by
  cases v with
  | list items => cases h
  | tuple items => cases h
  | tree kind raw =>
    rw [Value.indexed?] at h
    split at h
    · cases h
    · next hlist => exact ⟨_, by rw [step, if_neg hlist]⟩
  | _ => exact ⟨_, rfl⟩

theorem step_eq_error_iff : step v segment = .error err ↔
    v.indexed?.isSome ∧ ∃ fault, Number.readWhole segment = .error fault ∧ err = .refused fault.refusal := by
  cases h : v.indexed? with
  | none =>
    obtain ⟨w, hw⟩ := step_of_not_indexed h segment
    simp [hw]
  | some read =>
    rw [step_of_indexed h, stepInto_eq_error_iff]
    simp

theorem step_of_nothing (h : v.indexed? = some read) (hindex : Number.readWhole segment = .ok index)
    (hread : index.bind read = none) : step v segment = .ok .absent := by
  rw [step_of_indexed h, stepInto, wholeOfText?, hindex]
  cases index with
  | none => rfl
  | some n =>
    have hnone : read n = none := hread
    rw [ok_bind]
    simp [hnone]

/-- Steps lead from a value to another one and leave the rest of the segments. -/
inductive Reaches : Value → List String → Value → List String → Prop
  | refl (v : Value) (segments : List String) : Reaches v segments v segments
  | step {v u w : Value} {segment : String} {segments rest : List String} : Path.step v segment = .ok u →
      Reaches u segments w rest → Reaches v (segment :: segments) w rest

theorem Reaches.walk_eq (h : Reaches v segments w rest) : walk v segments = walk w rest := by
  induction h with
  | refl => rfl
  | step hstep _ ih => rw [walk_cons, hstep, ok_bind, ih]

theorem Reaches.suffix (h : Reaches v segments w rest) : rest <:+ segments := by
  induction h with
  | refl => exact List.suffix_refl _
  | step _ _ ih => exact ih.trans (List.suffix_cons _ _)

/-- The walk reaches a sequence in front of a numeral that no whole number is read from. -/
def Blocked (v : Value) (segments : List String) (fault : Number.WholeFault) : Prop :=
  ∃ w segment rest, Reaches v segments w (segment :: rest) ∧ w.indexed?.isSome ∧ Number.readWhole segment = .error fault

theorem walk_eq_error_iff :
    walk v segments = .error err ↔ ∃ fault, Blocked v segments fault ∧ err = .refused fault.refusal := by
  constructor
  · intro h
    induction segments generalizing v with
    | nil => cases h
    | cons segment rest ih =>
      rw [walk_cons, bind_eq_error_iff, step_eq_error_iff] at h
      rcases h with ⟨hindexed, fault, hfault, rfl⟩ | ⟨u, hstep, hrest⟩
      · exact ⟨fault, ⟨v, segment, rest, .refl _ _, hindexed, hfault⟩, rfl⟩
      · obtain ⟨fault, ⟨w, next, back, hreach, hblocked⟩, rfl⟩ := ih hrest
        exact ⟨fault, ⟨w, next, back, .step hstep hreach, hblocked⟩, rfl⟩
  · rintro ⟨fault, ⟨w, segment, rest, hreach, hindexed, hfault⟩, rfl⟩
    rw [hreach.walk_eq, walk_cons, step_eq_error_iff.2 ⟨hindexed, fault, hfault, rfl⟩, error_bind]

theorem navigate_eq_error_iff {path : String} :
    navigate v path = .error err ↔ ∃ fault, Blocked v (split path) fault ∧ err = .refused fault.refusal :=
  walk_eq_error_iff

theorem Blocked.exists_unreadable (h : Blocked v segments fault) :
    ∃ segment ∈ segments, Number.IsUnreadable segment := by
  obtain ⟨w, segment, rest, hreach, -, hfault⟩ := h
  exact ⟨segment, hreach.suffix.subset (List.mem_cons_self ..), (Number.readWhole_error_iff segment).1 ⟨fault, hfault⟩⟩

theorem walk_of_nothing (h : Reaches v segments w (segment :: rest)) (hw : w.indexed? = some read)
    (hindex : Number.readWhole segment = .ok index) (hread : index.bind read = none) :
    walk v segments = .ok .absent := by
  rw [h.walk_eq, walk_cons, step_of_nothing hw hindex hread, ok_bind, walk_absent]

structure Outcomes (v : Value) (path : String) : Prop where
  error_iff (err : Error) : navigate v path = .error err ↔
    ∃ fault, Blocked v (split path) fault ∧ err = .refused fault.refusal
  readable : (∀ s ∈ split path, ¬Number.IsUnreadable s) → ∃ w, navigate v path = .ok w
  noElement (w : Value) (read : Int → Option Value) (segment : String) (rest : List String) (index : Option Int) :
    Reaches v (split path) w (segment :: rest) → w.indexed? = some read → Number.readWhole segment = .ok index →
    index.bind read = none → navigate v path = .ok .absent

theorem outcomes (v : Value) (path : String) : Outcomes v path where
  error_iff _ := navigate_eq_error_iff
  readable hread := by
    refine exists_ok_of_ne_error fun err h => ?_
    obtain ⟨fault, hblocked, -⟩ := navigate_eq_error_iff.1 h
    obtain ⟨s, hs, hno⟩ := hblocked.exists_unreadable
    exact hread s hs hno
  noElement _ _ _ _ _ := walk_of_nothing

end Path

end Stencil
