import Stencil.Proofs.Pipe.Cutting

/-!
Filtering. Main statement: where fields can be read, a filter keeps the elements that have the field with the expected
text, in order, and nothing depends on how often or in which order filters are applied.
-/

namespace Stencil

open Outcome

variable {v item : Value} {items rest args : List Value} {f g E F : String}

namespace Pipe

/-- An element with fields where the field is present and has the text. -/
def Selects (f E : String) (item : Value) : Prop :=
  item.isFielded ∧ ∃ w, Path.navigate item f = .ok w ∧ ¬ w.isAbsent ∧ w.toText = .ok E

/-- An element without fields, or one where the field can be followed and has a text. -/
def Readable (f : String) (item : Value) : Prop :=
  item.isFielded → ∃ w text, Path.navigate item f = .ok w ∧ w.toText = .ok text

theorem agrees_eq_true_iff : agrees (.text f) E item = .ok true ↔ Selects f E item := by
  have hfield : Path.navigateBy item (.text f) = Path.navigate item f := rfl
  rw [agrees, Selects, hfield]
  by_cases hitem : item.isFielded
  · simp only [hitem, if_true, true_and, bind_eq_ok_iff]
    refine exists_congr fun w => and_congr_right fun _ => ?_
    by_cases habsent : w.isAbsent
    · simp [habsent]
    · simp [habsent, bind_eq_ok_iff]
  · simp [hitem]

theorem agrees_of_readable (h : Readable f item) : ∃ found, agrees (.text f) E item = .ok found := by
  rw [agrees]
  by_cases hitem : item.isFielded
  · obtain ⟨w, text, hw, htext⟩ := h hitem
    have hfield : Path.navigateBy item (.text f) = .ok w := hw
    rw [if_pos hitem, hfield, ok_bind, htext, ok_bind]
    split <;> exact ⟨_, rfl⟩
  · exact ⟨false, if_neg hitem⟩

instance (f E : String) : DecidablePred (Selects f E) := fun item =>
  match h : agrees (.text f) E item with
  | .ok true => .isTrue (agrees_eq_true_iff.1 h)
  | .ok false => .isFalse fun hs => by simp [agrees_eq_true_iff.2 hs] at h
  | .error _ => .isFalse fun hs => by simp [agrees_eq_true_iff.2 hs] at h

theorem agrees_eq_decide (h : Readable f item) : agrees (.text f) E item = .ok (decide (Selects f E item)) := by
  obtain ⟨found, hfound⟩ := agrees_of_readable (E := E) h
  rw [hfound, Except.ok.injEq, Bool.eq_iff_iff, decide_eq_true_iff, ← agrees_eq_true_iff, hfound, Except.ok.injEq]

theorem keep_eq_filter (h : ∀ item ∈ items, Readable f item) :
    keep (.text f) E items = .ok (items.filter (Selects f E)) := by
  induction items with
  | nil => rfl
  | cons item items ih =>
    obtain ⟨hitem, hitems⟩ := List.forall_mem_cons.1 h
    rw [keep, agrees_eq_decide hitem, ih hitems, List.filter_cons]
    rfl

/-- Arguments that are there and are the text once they are joined again. -/
def Expect (rest : List Value) (E : String) : Prop := rest ≠ [] ∧ rejoin rest = .ok E

theorem filter_of_items (hv : v.unwrap.sequence? = some items) (hrest : Expect rest E)
    (h : ∀ item ∈ items, Readable f item) :
    filter (.text f :: rest) v = .ok (.list (items.filter (Selects f E))) := by
  have hfield : fieldArg? (.text f :: rest) = some (.text f) := rfl
  have hne : rest.isEmpty = false := List.isEmpty_eq_false_iff.2 hrest.1
  rw [filter, List.tail_cons, hrest.2, ok_bind, hv, hfield]
  simp [hne, keep_eq_filter h]

theorem filter_of_no_items (hv : v.unwrap.sequence? = none) (hargs : rejoin args.tail = .ok E) :
    filter args v = .ok .absent := by
  rw [filter, hargs, ok_bind, hv]
  rfl

theorem eq_absent_of_no_items (hv : v.unwrap.sequence? = none) {w : Value} (h : filter args v = .ok w) :
    w = .absent := by
  obtain ⟨E, hargs, -⟩ := bind_eq_ok_iff.1 h
  rw [filter_of_no_items hv hargs] at h
  exact (Except.ok.inj h).symm

theorem tail_of_missing (h : args.length ≤ 1) : args.tail = [] := by
  apply List.eq_nil_of_length_eq_zero
  rw [List.length_tail]
  omega

theorem filter_of_missing (h : args.length ≤ 1) (v : Value) : filter args v = .ok .absent := by
  rw [filter, tail_of_missing h]
  simp only [rejoin, textsOf, ok_bind, pure_eq_ok, List.isEmpty_nil, if_true]
  split <;> rfl

end Pipe

theorem Value.sequence_eq_some_iff : v.sequence? = some items ↔ v.Carries (.items items) := by
  rw [← run_eq_some_iff]
  cases v with
  | text s => simp [sequence?, run?]
  | _ => simp [run?]

namespace Registry

variable (r : Registry)

theorem apply_filter (args : List Value) (hargs : Pipe.rejoin args.tail = .ok E) (v : Value) :
    r.apply "filter" args v = Pipe.filter args v :=
  r.apply_standard .filter args (Pipe.filter_of_no_items (v := .absent) rfl hargs) v

theorem apply_filter_guarded (args : List Value) (v : Value) :
    r.apply "filter" args v = Pipe.filter.passingAbsence args v :=
  apply_of_find (find_standard r .filter) args v

theorem apply_filter_absent (args : List Value) : r.apply "filter" args .absent = .ok .absent :=
  r.apply_filter_guarded args .absent

theorem apply_filter_of_items (hv : v.unwrap.sequence? = some items) (hrest : Pipe.Expect rest E)
    (h : ∀ item ∈ items, Pipe.Readable f item) :
    r.apply "filter" (.text f :: rest) v = .ok (.list (items.filter (Pipe.Selects f E))) := by
  rw [r.apply_filter (.text f :: rest) hrest.2, Pipe.filter_of_items hv hrest h]

theorem apply_filter_filter {other : List Value} (hv : v.unwrap.sequence? = some items) (hrest : Pipe.Expect rest E)
    (hother : Pipe.Expect other F) (hf : ∀ item ∈ items, Pipe.Readable f item)
    (hg : ∀ item ∈ items, Pipe.Readable g item) :
    r.apply "filter" (.text f :: rest) v >>= r.apply "filter" (.text g :: other) =
      .ok (.list (items.filter fun item => Pipe.Selects f E item ∧ Pipe.Selects g F item)) := by
  have hkept : ∀ item ∈ items.filter (Pipe.Selects f E), Pipe.Readable g item :=
    fun item hitem => hg item (List.mem_of_mem_filter hitem)
  rw [r.apply_filter_of_items hv hrest hf, ok_bind, r.apply_filter_of_items rfl hother hkept, List.filter_filter]
  simp only [Bool.decide_and, Bool.and_comm]

structure Filters (v : Value) (items : List Value) : Prop where
  selects (f E : String) (rest : List Value) : Pipe.Expect rest E → (∀ item ∈ items, Pipe.Readable f item) →
    r.apply "filter" (.text f :: rest) v = .ok (.list (items.filter (Pipe.Selects f E)))
  idempotent (f E : String) (rest again : List Value) : Pipe.Expect rest E → Pipe.Expect again E →
    (∀ item ∈ items, Pipe.Readable f item) →
    r.apply "filter" (.text f :: rest) v >>= r.apply "filter" (.text f :: again) = r.apply "filter" (.text f :: rest) v
  commute (f g E F : String) (rest other : List Value) : Pipe.Expect rest E → Pipe.Expect other F →
    (∀ item ∈ items, Pipe.Readable f item) → (∀ item ∈ items, Pipe.Readable g item) →
    ∃ kept, kept = items.filter (fun item => Pipe.Selects f E item ∧ Pipe.Selects g F item) ∧
      r.apply "filter" (.text f :: rest) v >>= r.apply "filter" (.text g :: other) = .ok (.list kept) ∧
      r.apply "filter" (.text g :: other) v >>= r.apply "filter" (.text f :: rest) = .ok (.list kept)

theorem filters_of_items (hv : v.unwrap.sequence? = some items) : r.Filters v items where
  selects _ _ _ hrest hf := r.apply_filter_of_items hv hrest hf
  idempotent f E rest again hrest hagain hf := by
    rw [r.apply_filter_filter hv hrest hagain hf hf, r.apply_filter_of_items hv hrest hf]
    simp only [and_self]
  commute f g E F rest other hrest hother hf hg := by
    refine ⟨_, rfl, r.apply_filter_filter hv hrest hother hf hg, ?_⟩
    rw [r.apply_filter_filter hv hother hrest hg hf]
    simp only [and_comm]

/-- Alone, before another filter and after one, the filter gives absence. -/
structure FiltersNothing (args : List Value) (v : Value) : Prop where
  alone : r.apply "filter" args v = .ok .absent
  before (other : List Value) : r.apply "filter" args v >>= r.apply "filter" other = .ok .absent
  after (other : List Value) (w : Value) : r.apply "filter" other v = .ok w → r.apply "filter" args w = .ok .absent

theorem filtersNothing_of_missing (h : args.length ≤ 1) (v : Value) : r.FiltersNothing args v := by
  have hargs : Pipe.rejoin args.tail = .ok "" := by
    rw [Pipe.tail_of_missing h]
    rfl
  have halone (w : Value) : r.apply "filter" args w = .ok .absent := by
    rw [r.apply_filter args hargs, Pipe.filter_of_missing h]
  refine ⟨halone v, fun other => ?_, fun _ w _ => halone w⟩
  rw [halone, ok_bind, apply_filter_absent]

theorem filtersNothing_of_no_items (hv : v.unwrap.sequence? = none) (hargs : Pipe.rejoin args.tail = .ok E) :
    r.FiltersNothing args v := by
  have halone : r.apply "filter" args v = .ok .absent := by rw [r.apply_filter args hargs, Pipe.filter_of_no_items hv hargs]
  refine ⟨halone, fun other => ?_, fun other w hw => ?_⟩
  · rw [halone, ok_bind, apply_filter_absent]
  · rw [apply_filter_guarded, Pipe.passingAbsence] at hw
    split at hw
    · obtain rfl := Except.ok.inj hw
      exact r.apply_filter_absent args
    · rw [Pipe.eq_absent_of_no_items hv hw, apply_filter_absent]

/-- Filtering is a selection of elements, and absence where nothing can be selected. -/
theorem filters_or_absent (v : Value) :
    (∀ items, v.unwrap.Carries (.items items) → r.Filters v items) ∧
      ∀ args E, Pipe.rejoin args.tail = .ok E → (args.length ≤ 1 ∨ ∀ items, ¬ v.unwrap.Carries (.items items)) →
        r.FiltersNothing args v := by
  refine ⟨fun items h => r.filters_of_items (Value.sequence_eq_some_iff.2 h), fun args E hargs h => ?_⟩
  rcases h with hmissing | hnone
  · exact r.filtersNothing_of_missing hmissing v
  · refine r.filtersNothing_of_no_items ?_ hargs
    exact Option.eq_none_iff_forall_ne_some.2 fun items h => hnone items (Value.sequence_eq_some_iff.1 h)

/-- A map whose text has a colon, a number, and a node of a document. -/
def mixed : List Value :=
  [.map [(.text "t", .text "x:y"), (.text "n", .int 1)], .int 5, .node (.map [(.text "t", .bool true)])]

theorem mixed_readable (h : f = "t" ∨ f = "n") : ∀ item ∈ mixed, Pipe.Readable f item := by
  simp only [mixed, List.forall_mem_cons]
  rcases h with rfl | rfl
  · exact ⟨fun _ => ⟨.text "x:y", _, rfl, rfl⟩, nofun, fun _ => ⟨.bool true, _, rfl, rfl⟩, nofun⟩
  · exact ⟨fun _ => ⟨.int 1, _, rfl, rfl⟩, nofun, fun _ => ⟨.absent, _, rfl, rfl⟩, nofun⟩

theorem filters_or_absent_mixed :
    ∃ kept, kept = [.map [(.text "t", .text "x:y"), (.text "n", .int 1)]] ∧
      empty.apply "filter" [.text "t", .text "x", .text "y"] (.tuple mixed) = .ok (.list kept) ∧
      empty.apply "filter" [.text "n", .text "1"] (.tuple mixed) >>=
        empty.apply "filter" [.text "t", .text "x", .text "y"] = .ok (.list kept) ∧
      empty.apply "filter" [.text "t"] (.tuple mixed) = .ok .absent ∧
      empty.apply "filter" [.text "t", .text "x"] (.text "t") = .ok .absent := by
  have hlist := (filters_or_absent empty (.tuple mixed)).1 mixed (.tuple mixed)
  have hcolon : Pipe.Expect [.text "x", .text "y"] "x:y" := ⟨by simp, rfl⟩
  have hone : Pipe.Expect [.text "1"] "1" := ⟨by simp, rfl⟩
  refine ⟨_, rfl, ?_, ?_, ?_, ?_⟩
  · exact hlist.selects "t" "x:y" _ hcolon (mixed_readable (.inl rfl))
  · obtain ⟨_, rfl, -, h⟩ :=
      hlist.commute "t" "n" "x:y" "1" _ _ hcolon hone (mixed_readable (.inl rfl)) (mixed_readable (.inr rfl))
    exact h
  · exact ((filters_or_absent empty (.tuple mixed)).2 [.text "t"] "" rfl (.inl (by simp))).alone
  · exact ((filters_or_absent empty (.text "t")).2 [.text "t", .text "x"] "x" rfl (.inr nofun)).alone

end Registry

end Stencil
