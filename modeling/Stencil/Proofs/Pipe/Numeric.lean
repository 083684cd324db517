import Stencil.Proofs.Number.Rounding
import Stencil.Proofs.Outcome
import Stencil.Proofs.Pipe.Registration

/-!
When pipes over numbers raise. Main statement: a whole number beyond the range among what a pipe reads, a place argument
that is a numeral but cannot be read, and rounding past the largest number are all there is; otherwise the outcome is a
number, a text or absence.
-/

namespace Stencil

open Outcome

variable {v : Value} {vs : List Value} {err : Error}

namespace Value

/-- A whole number that no floating-point number is near. -/
def IsHuge (v : Value) : Prop := ∃ n, v.unwrap = .int n ∧ Number.floatLimit ≤ n.natAbs

/-- The number that a value stands for, where it is not huge. -/
def number? (v : Value) : Option Float :=
  match v.toNumber? with
  | .ok x => x
  | .error _ => none

theorem toNumber_of_isHuge (h : v.IsHuge) : v.toNumber? = .error (.overflow .wholeNumber) := by
  obtain ⟨n, hn, hle⟩ := h
  rw [toNumber?, hn, hostNumber?, (Number.ofInt_eq_none_iff n).2 hle]

theorem toNumber_of_not_isHuge (h : ¬v.IsHuge) : v.toNumber? = .ok v.number? := by
  suffices ∃ x, v.toNumber? = .ok x by
    obtain ⟨x, hx⟩ := this
    rw [number?, hx]
  rw [toNumber?]
  cases hv : v.unwrap with
  | int n =>
    cases hn : Number.ofInt? n with
    | none => exact absurd ⟨n, hv, (Number.ofInt_eq_none_iff n).1 hn⟩ h
    | some x => exact ⟨some x, by rw [hostNumber?, hn]⟩
  | _ => exact ⟨_, rfl⟩

theorem numbersOf_of_isHuge (h : ∃ v ∈ vs, v.IsHuge) : numbersOf vs = .error (.overflow .wholeNumber) := by
  induction vs with
  | nil =>
    obtain ⟨v, hv, -⟩ := h
    cases hv
  | cons v vs ih =>
    rw [numbersOf]
    by_cases hv : v.IsHuge
    · rw [toNumber_of_isHuge hv, error_bind]
    · have hrest : ∃ u ∈ vs, u.IsHuge := by
        obtain ⟨u, hu, hhuge⟩ := h
        rcases List.mem_cons.1 hu with rfl | hu
        · exact absurd hhuge hv
        · exact ⟨u, hu, hhuge⟩
      rw [toNumber_of_not_isHuge hv, ok_bind, ih hrest, error_bind]

theorem numbersOf_of_not_isHuge (h : ∀ v ∈ vs, ¬v.IsHuge) : numbersOf vs = .ok (vs.filterMap number?) := by
  induction vs with
  | nil => rfl
  | cons v vs ih =>
    obtain ⟨hv, hvs⟩ := List.forall_mem_cons.1 h
    rw [numbersOf, toNumber_of_not_isHuge hv, ok_bind, ih hvs, ok_bind, List.filterMap_cons, pure_eq_ok]
    cases v.number? <;> rfl

end Value

inductive NumericPipe where
  | maxNum
  | minNum
  | round
  | toNumber
  | sum
  | currency
deriving DecidableEq

namespace NumericPipe

def name : NumericPipe → String
  | .maxNum => "maxNum"
  | .minNum => "number.minNum"
  | .round => "number.round"
  | .toNumber => "number.toNumber"
  | .sum => "number.sum"
  | .currency => "number.currency"

def body : NumericPipe → Pipe
  | .maxNum => Pipe.maxNum
  | .minNum => Pipe.minNum
  | .round => Pipe.round
  | .toNumber => Pipe.toNumber
  | .sum => Pipe.sum
  | .currency => Pipe.currency

def sources : NumericPipe → Value → List Value
  | .maxNum, v => v.unwrap.numberSources
  | .minNum, v => v.unwrap.numberSources
  | .sum, v => v.unwrap.numberSources
  | .round, v => [v]
  | .toNumber, v => [v]
  | .currency, v => [Pipe.withoutDollars v.unwrap]

def pick? : NumericPipe → List Float → Option Float
  | .maxNum, xs => Pipe.greatest? xs
  | .minNum, xs => Pipe.least? xs
  | .round, xs => xs.head?
  | _, _ => none

def places? : NumericPipe → Option Int → Option Int
  | .round, n => some (n.getD 0)
  | _, n => n

def argument? (args : List String) : Except Number.WholeFault (Option Int) :=
  match args.head? with
  | some s => Number.readWhole s
  | none => .ok none

inductive Raises (p : NumericPipe) (args : List String) (v : Value) : Error → Prop
  | huge {u : Value} : u ∈ p.sources v → u.IsHuge → Raises p args v (.overflow .wholeNumber)
  | unreadable {x : Float} {fault : Number.WholeFault} : (∀ u ∈ p.sources v, ¬u.IsHuge) →
      p.pick? ((p.sources v).filterMap Value.number?) = some x → argument? args = .error fault →
      Raises p args v (.refused fault.refusal)
  | tooLarge {x : Float} {n : Option Int} {places : Int} : (∀ u ∈ p.sources v, ¬u.IsHuge) →
      p.pick? ((p.sources v).filterMap Value.number?) = some x → argument? args = .ok n →
      p.places? n = some places → Number.RoundsOver x places → Raises p args v (.overflow .rounded)

def finish (p : NumericPipe) (args : List Value) (xs : List Float) : Result Value :=
  match p with
  | .toNumber => .ok ((xs.head?.map Value.float).getD .absent)
  | .sum => .ok (.float (Pipe.total xs))
  | .currency => .ok ((xs.head?.map fun x => .text ("$" ++ String.ofList (Number.writeAmount x))).getD .absent)
  | p =>
    match p.pick? xs with
    | some x => do Pipe.rounded x (p.places? (← Pipe.wholeArg? args 0))
    | none => .ok .absent

theorem body_eq (p : NumericPipe) (args : List Value) (v : Value) :
    p.body args v = Value.numbersOf (p.sources v) >>= p.finish args := by
  have hone : ∀ u : Value, Value.numbersOf [u] = u.toNumber? >>= fun x => .ok x.toList := by
    intro u
    rw [Value.numbersOf]
    cases u.toNumber? with
    | error => rfl
    | ok x => cases x <;> rfl
  cases p with
  | maxNum => rfl
  | minNum => rfl
  | sum => rfl
  | round =>
    simp only [body, sources, hone, Pipe.round]
    cases v.toNumber? with
    | error => rfl
    | ok x => cases x <;> rfl
  | toNumber =>
    simp only [body, sources, hone, Pipe.toNumber]
    cases v.toNumber? with
    | error => rfl
    | ok x => cases x <;> rfl
  | currency =>
    simp only [body, sources, hone, Pipe.currency]
    cases (Pipe.withoutDollars v.unwrap).toNumber? with
    | error => rfl
    | ok x => cases x <;> rfl

theorem wholeArg_eq (args : List String) : Pipe.wholeArg? (args.map .text) 0 =
    match argument? args with
    | .ok n => .ok n
    | .error fault => .error (.refused fault.refusal) := by
  rw [Pipe.wholeArg_texts]
  cases args <;> rfl

theorem rounded_eq (x : Float) (places : Option Int) : Pipe.rounded x places = .error (.overflow .rounded) ∧
    (∃ n, places = some n ∧ Number.RoundsOver x n) ∨
      (∃ y, Pipe.rounded x places = .ok (.float y)) ∧ ∀ n, places = some n → ¬Number.RoundsOver x n := by
  cases places with
  | none => exact .inr ⟨⟨x, rfl⟩, fun n hn => nomatch hn⟩
  | some n =>
    rw [Pipe.rounded]
    cases hy : Number.roundTo? x n with
    | none => exact .inl ⟨rfl, n, rfl, Number.roundTo_eq_none_iff.1 hy⟩
    | some y =>
      refine .inr ⟨⟨y, rfl⟩, fun m hm hover => ?_⟩
      obtain rfl := Option.some.inj hm
      exact Option.some_ne_none y (hy.symm.trans (Number.roundTo_eq_none_iff.2 hover))

theorem Raises.unique {p : NumericPipe} {args : List String} {err' : Error} (h : p.Raises args v err)
    (h' : p.Raises args v err') : err = err' := by
  cases h with
  | huge hu hhuge =>
    cases h' with
    | huge => rfl
    | unreadable hno => exact absurd hhuge (hno _ hu)
    | tooLarge hno => exact absurd hhuge (hno _ hu)
  | unreadable hno _ hfault =>
    cases h' with
    | huge hu hhuge => exact absurd hhuge (hno _ hu)
    | unreadable _ _ hfault' => rw [Except.error.inj (hfault.symm.trans hfault')]
    | tooLarge _ _ hn => cases hfault.symm.trans hn
  | tooLarge hno _ hn =>
    cases h' with
    | huge hu hhuge => exact absurd hhuge (hno _ hu)
    | unreadable _ _ hfault => cases hfault.symm.trans hn
    | tooLarge => rfl

def IsPlain (w : Value) : Prop := w = .absent ∨ (∃ x, w = .float x) ∨ ∃ s, w = .text s

/-- Either an error that is accounted for, or a plain value and nothing to account for. -/
def Settled (p : NumericPipe) (args : List String) (v : Value) (outcome : Result Value) : Prop :=
  (∃ err, outcome = .error err ∧ p.Raises args v err) ∨
    (∃ w, outcome = .ok w ∧ IsPlain w) ∧ ∀ err, ¬p.Raises args v err

variable {p : NumericPipe} {args : List String}

theorem not_raises_of_pick (h : ∀ u ∈ p.sources v, ¬u.IsHuge)
    (hnone : p.pick? ((p.sources v).filterMap Value.number?) = none) : ¬p.Raises args v err := by
  rintro (⟨hu, hhuge⟩ | ⟨-, hsome, -⟩ | ⟨-, hsome, -⟩)
  · exact h _ hu hhuge
  · exact Option.some_ne_none _ (hsome.symm.trans hnone)
  · exact Option.some_ne_none _ (hsome.symm.trans hnone)

theorem settled_rounded {x : Float} (h : ∀ u ∈ p.sources v, ¬u.IsHuge)
    (hx : p.pick? ((p.sources v).filterMap Value.number?) = some x) :
    p.Settled args v (Pipe.wholeArg? (args.map .text) 0 >>= fun n => Pipe.rounded x (p.places? n)) := by
  rw [wholeArg_eq]
  cases hn : argument? args with
  | error fault => exact .inl ⟨_, rfl, .unreadable h hx hn⟩
  | ok n =>
    rw [ok_bind]
    rcases rounded_eq x (p.places? n) with ⟨hover, places, hplaces, hx'⟩ | ⟨⟨y, hy⟩, hno⟩
    · exact .inl ⟨_, hover, .tooLarge h hx hn hplaces hx'⟩
    · refine .inr ⟨⟨_, hy, .inr (.inl ⟨y, rfl⟩)⟩, fun err hraises => ?_⟩
      rcases hraises with ⟨hu, hhuge⟩ | ⟨-, -, hfault⟩ | ⟨-, hx', hn', hplaces, hover⟩
      · exact h _ hu hhuge
      · rw [hn] at hfault
        cases hfault
      · rw [hn] at hn'
        obtain rfl := Except.ok.inj hn'
        obtain rfl := Option.some.inj (hx.symm.trans hx')
        exact hno _ hplaces hover

theorem settled_finish (h : ∀ u ∈ p.sources v, ¬u.IsHuge) :
    p.Settled args v (p.finish (args.map .text) ((p.sources v).filterMap Value.number?)) := by
  have hplain {w : Value} (hnone : p.pick? ((p.sources v).filterMap Value.number?) = none) (hw : IsPlain w) :
      p.Settled args v (.ok w) := .inr ⟨⟨w, rfl, hw⟩, fun _ => not_raises_of_pick h hnone⟩
  have hpick {outcome : Result Value} (hout : outcome =
      match p.pick? ((p.sources v).filterMap Value.number?) with
      | some x => Pipe.wholeArg? (args.map .text) 0 >>= fun n => Pipe.rounded x (p.places? n)
      | none => .ok .absent) : p.Settled args v outcome := by
    rw [hout]
    cases hx : p.pick? ((p.sources v).filterMap Value.number?) with
    | none => exact hplain hx (.inl rfl)
    | some x => exact settled_rounded h hx
  cases p with
  | toNumber =>
    refine hplain rfl ?_
    cases ((sources .toNumber v).filterMap Value.number?).head? with
    | none => exact .inl rfl
    | some x => exact .inr (.inl ⟨x, rfl⟩)
  | sum => exact hplain rfl (.inr (.inl ⟨_, rfl⟩))
  | currency =>
    refine hplain rfl ?_
    cases ((sources .currency v).filterMap Value.number?).head? with
    | none => exact .inl rfl
    | some x => exact .inr (.inr ⟨_, rfl⟩)
  | maxNum => exact hpick rfl
  | minNum => exact hpick rfl
  | round => exact hpick rfl

theorem settled_body (p : NumericPipe) (args : List String) (v : Value) :
    p.Settled args v (p.body (args.map .text) v) := by
  rw [body_eq]
  by_cases h : ∃ u ∈ p.sources v, u.IsHuge
  · obtain ⟨u, hu, hhuge⟩ := h
    rw [Value.numbersOf_of_isHuge ⟨u, hu, hhuge⟩, error_bind]
    exact .inl ⟨_, rfl, .huge hu hhuge⟩
  · have hnone : ∀ u ∈ p.sources v, ¬u.IsHuge := fun u hu hhuge => h ⟨u, hu, hhuge⟩
    rw [Value.numbersOf_of_not_isHuge hnone, ok_bind]
    exact settled_finish hnone

theorem find_name (today : Calendar.Date) (p : NumericPipe) :
    (Registry.standard today).find? p.name = some p.body.passingAbsence := by
  cases p <;> rfl

theorem settled_absent (p : NumericPipe) (args : List String) : p.Settled args .absent (.ok .absent) := by
  have hsmall : ∀ u ∈ p.sources .absent, ¬u.IsHuge := by
    rintro u hu ⟨n, hn, -⟩
    cases p <;> simp_all [sources, Value.unwrap, Value.numberSources, Pipe.withoutDollars]
  exact .inr ⟨⟨_, rfl, .inl rfl⟩, fun _ => not_raises_of_pick hsmall (by cases p <;> rfl)⟩

theorem settled_apply (today : Calendar.Date) (p : NumericPipe) (args : List String) (v : Value) :
    p.Settled args v ((Registry.standard today).apply p.name (args.map .text) v) := by
  rw [Registry.apply_of_find (find_name today p), Pipe.passingAbsence]
  cases hv : v.isAbsent with
  | false => exact settled_body p args v
  | true =>
    obtain rfl : v = .absent := by cases v <;> simp_all [Value.isAbsent]
    exact settled_absent p args

/-- Pipes over numbers raise for these reasons and for no others; where there is none, the outcome is plain. -/
theorem apply_raises_iff (today : Calendar.Date) (p : NumericPipe) (args : List String) (v : Value) :
    (∀ err, (Registry.standard today).apply p.name (args.map .text) v = .error err ↔ p.Raises args v err) ∧
      ((∀ err, ¬p.Raises args v err) →
        ∃ w, (Registry.standard today).apply p.name (args.map .text) v = .ok w ∧ IsPlain w) := by
  rcases settled_apply today p args v with ⟨err, herr, hraises⟩ | ⟨⟨w, hw, hplain⟩, hno⟩
  · refine ⟨fun err' => ⟨fun h => ?_, fun h => ?_⟩, fun hno => absurd hraises (hno err)⟩
    · rw [Except.error.inj (h.symm.trans herr)]
      exact hraises
    · rw [herr, hraises.unique h]
  · refine ⟨fun err => ⟨fun h => ?_, fun h => absurd h (hno err)⟩, fun _ => ⟨w, hw, hplain⟩⟩
    cases hw.symm.trans h

theorem apply_raises_at_limit :
    (Registry.standard ⟨2025, 1, 20⟩).apply "number.toNumber" [] (.int Number.floatLimit) =
        .error (.overflow .wholeNumber) ∧
      ∃ w, (Registry.standard ⟨2025, 1, 20⟩).apply "number.toNumber" [] (.int (Number.floatLimit - 1)) = .ok w ∧
        IsPlain w := by
  refine ⟨((apply_raises_iff ⟨2025, 1, 20⟩ .toNumber [] (.int Number.floatLimit)).1 _).2 ?_,
    (apply_raises_iff ⟨2025, 1, 20⟩ .toNumber [] (.int (Number.floatLimit - 1))).2
      fun err => not_raises_of_pick ?_ rfl⟩
  · exact .huge (List.mem_singleton_self _) ⟨Number.floatLimit, rfl, by rw [Int.natAbs_natCast]⟩
  · rintro u hu ⟨n, hn, hle⟩
    obtain rfl := List.mem_singleton.1 hu
    obtain rfl : (Number.floatLimit : Int) - 1 = n := Value.int.inj hn
    have hpos := Number.floatLimit_pos
    omega

end NumericPipe

end Stencil
