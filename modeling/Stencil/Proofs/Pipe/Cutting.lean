import Stencil.Proofs.Outcome
import Stencil.Proofs.Pipe.Registration

/-!
Pipes that cut texts and collections. Main statement: whatever the signs of their bounds, they keep what stands at the
positions that the bounds allow, they agree with each other, and they give absence where there is nothing to cut.
-/

namespace Stencil

open Outcome

variable {α : Type} {v w a b : Value} {run : Run} {s e k : Int}

/-! ## Positions in a list -/

theorem take_drop_eq_positions (xs : List α) (n start stop : Nat) :
    (xs.take (stop - n)).drop (start - n) =
      ((xs.zipIdx n).filter fun part => start ≤ part.2 ∧ part.2 < stop).map Prod.fst := by
  induction xs generalizing n with
  | nil => simp
  | cons x xs ih =>
    rw [List.zipIdx_cons, List.filter_cons]
    by_cases hn : start ≤ n ∧ n < stop
    · obtain ⟨hstart, hstop⟩ := hn
      rw [if_pos (decide_eq_true ⟨hstart, hstop⟩), List.map_cons, ← ih, show stop - n = stop - (n + 1) + 1 by omega,
        show start - n = 0 by omega, show start - (n + 1) = 0 by omega]
      rfl
    · rw [if_neg (by simpa using hn), ← ih]
      by_cases hstop : n < stop
      · rw [show stop - n = stop - (n + 1) + 1 by omega, show start - n = start - (n + 1) + 1 by omega]
        rfl
      · rw [show stop - n = 0 by omega, show stop - (n + 1) = 0 by omega, List.take_zero, List.take_zero, List.drop_nil,
          List.drop_nil]

theorem between_eq_positions (start stop : Int) (xs : List α) :
    between start stop xs =
      (xs.zipIdx.filter fun part => max start 0 ≤ (part.2 : Int) ∧ (part.2 : Int) ≤ stop).map Prod.fst := by
  have hmem (part : α × Nat) : start.toNat ≤ part.2 ∧ part.2 < (stop + 1).toNat ↔
      max start 0 ≤ (part.2 : Int) ∧ (part.2 : Int) ≤ stop := by omega
  have h := take_drop_eq_positions xs 0 start.toNat (stop + 1).toNat
  simpa only [between, Nat.sub_zero, hmem] using h

theorem firstOf_eq_between (count : Int) (xs : List α) : firstOf count xs = between 0 (count - 1) xs := by
  rw [firstOf, between, Int.sub_add_cancel, Int.toNat_zero, List.drop_zero]

theorem lastOf_eq_reverse (count : Int) (xs : List α) : lastOf count xs = (firstOf count xs.reverse).reverse := by
  rw [firstOf, List.take_reverse, List.reverse_reverse, lastOf]

theorem firstOf_append_between (count : Int) (xs : List α) :
    firstOf count xs ++ between count (xs.length - 1) xs = xs := by
  rw [firstOf, between, Int.sub_add_cancel, Int.toNat_natCast, List.take_length, List.take_append_drop]

/-! ## Runs -/

namespace Run

/-- The parts at the positions from `start` to `stop`, both included. -/
def within (start stop : Int) : Run → Run :=
  cut fun xs => (xs.zipIdx.filter fun part => start ≤ (part.2 : Int) ∧ (part.2 : Int) ≤ stop).map Prod.fst

/-- The part at a position; a part of a text is a text. -/
def part? (i : Nat) : Run → Option Value
  | .text cs => cs[i]?.map fun c => .text (String.singleton c)
  | .items vs => vs[i]?

theorem cut_between (start stop : Int) (run : Run) : run.cut (between start stop) = run.within (max start 0) stop := by
  cases run <;> simp only [cut, within, between_eq_positions]

theorem cut_firstOf (count : Int) (run : Run) : run.cut (firstOf count) = run.cut (between 0 (count - 1)) := by
  cases run <;> simp only [cut, firstOf_eq_between]

theorem cut_lastOf (count : Int) (run : Run) :
    run.cut (lastOf count) = ((run.cut List.reverse).cut (firstOf count)).cut List.reverse := by
  cases run <;> simp only [cut, lastOf_eq_reverse]

@[simp]
theorem cut_reverse_reverse (run : Run) : (run.cut List.reverse).cut List.reverse = run := by
  cases run <;> simp only [cut, List.reverse_reverse]

theorem first_eq_part (run : Run) : run.first? = run.part? 0 := by
  cases run <;> simp only [first?, part?, List.head?_eq_getElem?]

theorem last_eq_part (run : Run) : run.last? = run.part? (run.length - 1) := by
  cases run <;> simp only [last?, part?, length, List.getLast?_eq_getElem?]

theorem last_reverse (run : Run) : (run.cut List.reverse).last? = run.first? := by
  cases run <;> simp only [cut, last?, first?, List.getLast?_reverse]

theorem first_reverse (run : Run) : (run.cut List.reverse).first? = run.last? := by
  cases run <;> simp only [cut, last?, first?, List.head?_reverse]

theorem part_of_length_eq_zero (h : run.length = 0) (i : Nat) : run.part? i = none := by
  cases run <;> simp_all [length, part?]

end Run

/-! ## Values that carry a run -/

namespace Value

/-- Texts carry their characters, collections their elements in canonical order. -/
inductive Carries : Value → Run → Prop
  | text (s : String) : Carries (.text s) (.text s.toList)
  | list (items : List Value) : Carries (.list items) (.items items)
  | tuple (items : List Value) : Carries (.tuple items) (.items items)
  | keys (items : List Value) : Carries (.keys items) (.items items)
  | array (kind : TreeKind) (items : List Value) :
      Carries (.tree kind (.list items)) (.items (items.map fun item => (wrapAs kind item).unwrap))

theorem run_eq_some_iff : v.run? = some run ↔ v.Carries run := by
  constructor
  · intro h
    cases v with
    | tree kind raw =>
      cases raw with
      | list items => cases h; exact .array kind items
      | _ => cases h
    | text s => cases h; exact .text s
    | list items => cases h; exact .list items
    | tuple items => cases h; exact .tuple items
    | keys items => cases h; exact .keys items
    | _ => cases h
  · rintro ⟨⟩ <;> rfl

theorem run_eq_none (h : ∀ run, ¬ v.Carries run) : v.run? = none :=
  Option.eq_none_iff_forall_ne_some.2 fun run hrun => h run (run_eq_some_iff.1 hrun)

theorem run_toValue (run : Run) : run.toValue.unwrap.run? = some run := by
  cases run with
  | text cs => simp [Run.toValue, unwrap, run?]
  | items vs => rfl

def IsWhole (a : Value) (n : Int) : Prop := a.toWhole? = .ok (some n)

inductive Concat : Value → Value → Value → Prop
  | text (s t : String) : Concat (.text s) (.text t) (.text (s ++ t))
  | list (items others : List Value) : Concat (.list items) (.list others) (.list (items ++ others))

theorem concat_firstOf_between (count : Int) (run : Run) :
    Concat (run.cut (firstOf count)).toValue (run.cut (between count (run.length - 1))).toValue run.toValue := by
  cases run with
  | text cs =>
    have h := firstOf_append_between count cs
    rw [Run.toValue, ← congrArg String.ofList h, String.ofList_append]
    exact .text _ _
  | items vs =>
    have h := firstOf_append_between count vs
    rw [Run.toValue, ← congrArg Value.list h]
    exact .list _ _

end Value

/-! ## Pipes -/

namespace Pipe

variable {args : List Value}

theorem first_of_run (h : v.unwrap.run? = some run) (args : List Value) :
    first args v = .ok (run.first?.getD .absent) := by
  rw [first, h, Option.bind_some]

theorem last_of_run (h : v.unwrap.run? = some run) (args : List Value) :
    last args v = .ok (run.last?.getD .absent) := by
  rw [last, h, Option.bind_some]

theorem reversed_of_run (h : v.unwrap.run? = some run) (args : List Value) :
    reversed args v = .ok (run.cut List.reverse).toValue := by
  rw [reversed, h]

theorem slice_of_run (h : v.unwrap.run? = some run) (ha : a.IsWhole s) (hb : b.IsWhole e) :
    slice [a, b] v = .ok (run.cut (between s e)).toValue := by
  have hstart : wholeArg? [a, b] 0 = .ok (some s) := ha
  have hstop : wholeArg? [a, b] 1 = .ok (some e) := hb
  rw [slice, hstart, ok_bind, h]
  simp only [List.length_cons, List.length_nil, hstop]
  rfl

theorem slice_to_end (h : v.unwrap.run? = some run) (ha : a.IsWhole s) :
    slice [a] v = .ok (run.cut (between s (run.length - 1))).toValue := by
  have hstart : wholeArg? [a] 0 = .ok (some s) := ha
  rw [slice, hstart, ok_bind, h]
  rfl

theorem counted_of_run (f : Int → Run → Run) (h : v.unwrap.run? = some run) (ha : a.IsWhole k) :
    counted f [a] v = .ok (f k run).toValue := by
  have hcount : wholeArg? [a] 0 = .ok (some k) := ha
  rw [counted, hcount, ok_bind, h]
  rfl

theorem take_of_run (h : v.unwrap.run? = some run) (ha : a.IsWhole k) :
    take [a] v = .ok (run.cut (firstOf k)).toValue := by
  rw [take_eq_counted, counted_of_run _ h ha]

theorem takeLast_of_run (h : v.unwrap.run? = some run) (ha : a.IsWhole k) :
    takeLast [a] v = .ok (run.cut (lastOf k)).toValue := by
  rw [takeLast_eq_counted, counted_of_run _ h ha]

theorem first_of_no_run (h : v.unwrap.run? = none) (args : List Value) : first args v = .ok .absent := by
  rw [first, h]
  rfl

theorem last_of_no_run (h : v.unwrap.run? = none) (args : List Value) : last args v = .ok .absent := by
  rw [last, h]
  rfl

theorem reversed_of_no_run (h : v.unwrap.run? = none) (args : List Value) : reversed args v = .ok .absent := by
  rw [reversed, h]

theorem slice_of_no_run (h : v.unwrap.run? = none) (ha : a.IsWhole s) : slice (a :: args) v = .ok .absent := by
  have hstart : wholeArg? (a :: args) 0 = .ok (some s) := ha
  rw [slice, hstart, ok_bind, h]
  rfl

theorem counted_of_no_run (f : Int → Run → Run) (h : v.unwrap.run? = none) (ha : a.IsWhole k) :
    counted f (a :: args) v = .ok .absent := by
  have hcount : wholeArg? (a :: args) 0 = .ok (some k) := ha
  rw [counted, hcount, ok_bind, h]
  rfl

theorem take_of_no_run (h : v.unwrap.run? = none) (ha : a.IsWhole k) : take (a :: args) v = .ok .absent := by
  rw [take_eq_counted, counted_of_no_run _ h ha]

theorem takeLast_of_no_run (h : v.unwrap.run? = none) (ha : a.IsWhole k) : takeLast (a :: args) v = .ok .absent := by
  rw [takeLast_eq_counted, counted_of_no_run _ h ha]

end Pipe

namespace Registry

variable (r : Registry)

theorem apply_first (args : List Value) (v : Value) : r.apply "first" args v = Pipe.first args v :=
  r.apply_standard .first args (Pipe.first_of_no_run (v := .absent) rfl args) v

theorem apply_last (args : List Value) (v : Value) : r.apply "last" args v = Pipe.last args v :=
  r.apply_standard .last args (Pipe.last_of_no_run (v := .absent) rfl args) v

theorem apply_reversed (args : List Value) (v : Value) : r.apply "reversed" args v = Pipe.reversed args v :=
  r.apply_standard .reversed args (Pipe.reversed_of_no_run (v := .absent) rfl args) v

theorem apply_slice (ha : a.IsWhole s) (args : List Value) (v : Value) :
    r.apply "slice" (a :: args) v = Pipe.slice (a :: args) v :=
  r.apply_standard .slice (a :: args) (Pipe.slice_of_no_run (v := .absent) rfl ha) v

theorem apply_take (ha : a.IsWhole k) (args : List Value) (v : Value) :
    r.apply "take" (a :: args) v = Pipe.take (a :: args) v :=
  r.apply_standard .take (a :: args) (Pipe.take_of_no_run (v := .absent) rfl ha) v

theorem apply_takeLast (ha : a.IsWhole k) (args : List Value) (v : Value) :
    r.apply "takeLast" (a :: args) v = Pipe.takeLast (a :: args) v :=
  r.apply_standard .takeLast (a :: args) (Pipe.takeLast_of_no_run (v := .absent) rfl ha) v

structure Cuts (v : Value) (run : Run) : Prop where
  slice (s e : Int) (a b : Value) : a.IsWhole s → b.IsWhole e →
    r.apply "slice" [a, b] v = .ok (run.within (max s 0) e).toValue
  take_eq_slice (k : Int) (a start stop : Value) : a.IsWhole k → start.IsWhole 0 → stop.IsWhole (k - 1) →
    r.apply "take" [a] v = r.apply "slice" [start, stop] v
  takeLast_eq_reversed (k : Int) (a : Value) : a.IsWhole k →
    ∃ w, r.apply "takeLast" [a] v = .ok w ∧
      r.apply "reversed" [] v >>= r.apply "take" [a] >>= r.apply "reversed" [] = .ok w
  take_concat_slice (k : Int) (a : Value) : 0 ≤ k → a.IsWhole k →
    ∃ front back, r.apply "take" [a] v = .ok front ∧ r.apply "slice" [a] v = .ok back ∧
      Value.Concat front back run.toValue
  first : r.apply "first" [] v = .ok ((run.part? 0).getD .absent)
  last : r.apply "last" [] v = .ok ((run.part? (run.length - 1)).getD .absent)
  first_eq_last : r.apply "first" [] v = r.apply "reversed" [] v >>= r.apply "last" []
  last_eq_first : r.apply "last" [] v = r.apply "reversed" [] v >>= r.apply "first" []
  of_empty : run.length = 0 → r.apply "first" [] v = .ok .absent ∧ r.apply "last" [] v = .ok .absent
  reversed_reversed : r.apply "reversed" [] v >>= r.apply "reversed" [] = .ok run.toValue

structure CutsNothing (v : Value) : Prop where
  slice (s e : Int) (a b : Value) : a.IsWhole s → b.IsWhole e → r.apply "slice" [a, b] v = .ok .absent
  sliceToEnd (k : Int) (a : Value) : a.IsWhole k → r.apply "slice" [a] v = .ok .absent
  take (k : Int) (a : Value) : a.IsWhole k → r.apply "take" [a] v = .ok .absent
  takeLast (k : Int) (a : Value) : a.IsWhole k → r.apply "takeLast" [a] v = .ok .absent
  first : r.apply "first" [] v = .ok .absent
  last : r.apply "last" [] v = .ok .absent
  reversed : r.apply "reversed" [] v = .ok .absent

theorem cuts_of_run (h : v.unwrap.run? = some run) : r.Cuts v run where
  slice s e a b ha hb := by rw [r.apply_slice ha, Pipe.slice_of_run h ha hb, Run.cut_between]
  take_eq_slice k a start stop ha hstart hstop := by
    rw [r.apply_take ha, r.apply_slice hstart, Pipe.take_of_run h ha, Pipe.slice_of_run h hstart hstop, Run.cut_firstOf]
  takeLast_eq_reversed k a ha := by
    refine ⟨(run.cut (lastOf k)).toValue, ?_, ?_⟩
    · rw [r.apply_takeLast ha, Pipe.takeLast_of_run h ha]
    · rw [r.apply_reversed, Pipe.reversed_of_run h, ok_bind, r.apply_take ha,
        Pipe.take_of_run (Value.run_toValue _) ha, ok_bind, r.apply_reversed,
        Pipe.reversed_of_run (Value.run_toValue _), ← Run.cut_lastOf]
  take_concat_slice k a _ ha := by
    refine ⟨_, _, ?_, ?_, Value.concat_firstOf_between k run⟩
    · rw [r.apply_take ha, Pipe.take_of_run h ha]
    · rw [r.apply_slice ha, Pipe.slice_to_end h ha]
  first := by rw [r.apply_first, Pipe.first_of_run h, Run.first_eq_part]
  last := by rw [r.apply_last, Pipe.last_of_run h, Run.last_eq_part]
  first_eq_last := by
    rw [r.apply_first, r.apply_reversed, Pipe.first_of_run h, Pipe.reversed_of_run h, ok_bind, r.apply_last,
      Pipe.last_of_run (Value.run_toValue _), Run.last_reverse]
  last_eq_first := by
    rw [r.apply_last, r.apply_reversed, Pipe.last_of_run h, Pipe.reversed_of_run h, ok_bind, r.apply_first,
      Pipe.first_of_run (Value.run_toValue _), Run.first_reverse]
  of_empty hempty := by
    rw [r.apply_first, r.apply_last, Pipe.first_of_run h, Pipe.last_of_run h, Run.first_eq_part, Run.last_eq_part,
      Run.part_of_length_eq_zero hempty, Run.part_of_length_eq_zero hempty]
    exact ⟨rfl, rfl⟩
  reversed_reversed := by
    rw [r.apply_reversed, Pipe.reversed_of_run h, ok_bind, r.apply_reversed,
      Pipe.reversed_of_run (Value.run_toValue _), Run.cut_reverse_reverse]

theorem cutsNothing_of_no_run (h : v.unwrap.run? = none) : r.CutsNothing v where
  slice _ _ _ _ ha _ := by rw [r.apply_slice ha, Pipe.slice_of_no_run h ha]
  sliceToEnd _ _ ha := by rw [r.apply_slice ha, Pipe.slice_of_no_run h ha]
  take _ _ ha := by rw [r.apply_take ha, Pipe.take_of_no_run h ha]
  takeLast _ _ ha := by rw [r.apply_takeLast ha, Pipe.takeLast_of_no_run h ha]
  first := by rw [r.apply_first, Pipe.first_of_no_run h]
  last := by rw [r.apply_last, Pipe.last_of_no_run h]
  reversed := by rw [r.apply_reversed, Pipe.reversed_of_no_run h]

/-- Texts and collections are cut by positions, of whatever sign the bounds are; nothing else is cut. -/
theorem cuts_or_absent (v : Value) :
    (∀ run, v.unwrap.Carries run → r.Cuts v run) ∧ ((∀ run, ¬ v.unwrap.Carries run) → r.CutsNothing v) :=
  ⟨fun _ h => r.cuts_of_run (Value.run_eq_some_iff.2 h), fun h => r.cutsNothing_of_no_run (Value.run_eq_none h)⟩

/-- A document node with three elements is cut from before its start; one with a truth value is not cut at all. -/
theorem cuts_or_absent_node :
    empty.apply "slice" [.text "-1", .text "1"] (.node (.list [.int 7, .text "b", .absent])) =
        .ok (.list [.int 7, .text "b"]) ∧
      empty.apply "takeLast" [.text "2"] (.node (.bool true)) = .ok .absent := by
  have hlist := (cuts_or_absent empty (.node (.list [.int 7, .text "b", .absent]))).1 _ (.array .document _)
  have hscalar := (cuts_or_absent empty (.node (.bool true))).2 (by rintro run ⟨⟩)
  exact ⟨hlist.slice (-1) 1 (.text "-1") (.text "1") rfl rfl, hscalar.takeLast 2 (.text "2") rfl⟩

end Registry

end Stencil
