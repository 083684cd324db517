import Stencil.Pipe.Registry
import Stencil.Proofs.Value.Correspondence

/-!
Standard pipes on values that correspond. Main statement: each takes them to values that correspond, or refuses both
for the same reason. A filter compares texts, and lists and maps have another text than the nodes that hold them, so it
must compare neither.
-/

namespace Stencil

open Value Outcome

/-- Runs of the same characters, or of elements that correspond. -/
inductive Run.Corresponds : Run → Run → Prop
  | text (cs : List Char) : Run.Corresponds (.text cs) (.text cs)
  | items {vs ws : List Value} : List.Forall₂ Value.Corresponds vs ws → Run.Corresponds (.items vs) (.items ws)

namespace Value

variable {v w : Value} {vs ws : List Value}

theorem Corresponds.isAbsent_eq (h : Corresponds v w) : v.isAbsent = w.isAbsent := by
  cases h <;> rfl

theorem corresponds_elements {items : List Value} (h : ∀ v ∈ items, v.IsDocument) :
    List.Forall₂ Corresponds (items.map fun v => unwrap (.node v)) items := by
  induction items with
  | nil => exact .nil
  | cons v items ih =>
    rw [List.forall_mem_cons] at h
    exact .cons (corresponds_unwrap_node h.1) (ih h.2)

theorem Corresponds.sequence (h : Corresponds v w) :
    (v.sequence? = none ∧ w.sequence? = none) ∨
      ∃ vs ws, v.sequence? = some vs ∧ w.sequence? = some ws ∧ List.Forall₂ Corresponds vs ws := by
  cases h with
  | scalar hd hl => cases hd <;> first | exact .inl ⟨rfl, rfl⟩ | cases hl
  | items hd => exact .inr ⟨_, _, rfl, rfl, corresponds_elements hd.of_list⟩
  | entries => exact .inl ⟨rfl, rfl⟩
  | list h => exact .inr ⟨_, _, rfl, rfl, h⟩

theorem Corresponds.run (h : Corresponds v w) :
    (v.run? = none ∧ w.run? = none) ∨ ∃ r s, v.run? = some r ∧ w.run? = some s ∧ Run.Corresponds r s := by
  cases h with
  | scalar hd hl =>
    cases hd with
    | text s => exact .inr ⟨_, _, rfl, rfl, .text _⟩
    | list => cases hl
    | map => cases hl
    | _ => exact .inl ⟨rfl, rfl⟩
  | items hd => exact .inr ⟨_, _, rfl, rfl, .items (corresponds_elements hd.of_list)⟩
  | entries => exact .inl ⟨rfl, rfl⟩
  | list h => exact .inr ⟨_, _, rfl, rfl, .items h⟩

theorem corresponds_getD {x y : Option Value} (h : Option.Rel Corresponds x y) :
    Corresponds (x.getD .absent) (y.getD .absent) := by
  cases h with
  | none => exact .absent
  | some h => exact h

theorem Corresponds.toNumber_eq (h : Corresponds v w) : v.toNumber? = w.toNumber? := by
  cases h <;> rfl

theorem numbersOf_eq (h : List.Forall₂ Corresponds vs ws) : numbersOf vs = numbersOf ws := by
  induction h with
  | nil => rfl
  | cons hvw _ ih => rw [numbersOf, numbersOf, hvw.toNumber_eq, ih]

theorem Corresponds.collectNumbers_eq (h : Corresponds v w) : v.collectNumbers = w.collectNumbers := by
  cases h with
  | scalar => rfl
  | items hd => exact numbersOf_eq (corresponds_elements hd.of_list)
  | entries => rfl
  | list h => exact numbersOf_eq h

theorem Corresponds.isFielded_eq (h : Corresponds v w) : v.isFielded = w.isFielded := by
  cases h <;> rfl

theorem Corresponds.eq_of_isLeaf (h : Corresponds v w) (hl : w.isLeaf) : v = w := by
  cases h with
  | scalar => rfl
  | _ => cases hl

end Value

namespace Run

variable {r s : Run}

theorem Corresponds.length_eq (h : Run.Corresponds r s) : r.length = s.length := by
  cases h with
  | text => rfl
  | items h => exact h.length_eq

theorem Corresponds.cut (h : Run.Corresponds r s) {f : ∀ {α : Type}, List α → List α}
    (hf : ∀ vs ws, List.Forall₂ Value.Corresponds vs ws → List.Forall₂ Value.Corresponds (f vs) (f ws)) :
    Value.Corresponds (r.cut f).toValue (s.cut f).toValue := by
  cases h with
  | text cs => exact .scalar (.text _) rfl
  | items h => exact .list (hf _ _ h)

theorem Corresponds.first (h : Run.Corresponds r s) : Option.Rel Value.Corresponds r.first? s.first? := by
  cases h with
  | text cs =>
    cases cs with
    | nil => exact .none
    | cons c cs => exact .some (.scalar (.text _) rfl)
  | items h =>
    rw [first?, first?, List.head?_eq_getElem?, List.head?_eq_getElem?]
    exact forall₂_getElem h 0

theorem Corresponds.last (h : Run.Corresponds r s) : Option.Rel Value.Corresponds r.last? s.last? := by
  cases h with
  | text cs =>
    rw [last?]
    cases cs.getLast? with
    | none => exact .none
    | some c => exact .some (.scalar (.text _) rfl)
  | items h =>
    rw [last?, last?, List.getLast?_eq_getElem?, List.getLast?_eq_getElem?, h.length_eq]
    exact forall₂_getElem h _

end Run

namespace Pipe

variable {v w : Value} {vs ws : List Value} (args : List Value)

theorem agree_size (h : Value.Corresponds v w) : Agree Value.Corresponds (size args v) (size args w) := by
  cases h with
  | scalar hd hl =>
    cases hd with
    | text s => exact .ok (.scalar (.int _) rfl)
    | list => cases hl
    | map => cases hl
    | _ => exact .ok .absent
  | items => exact .ok (.scalar (.int _) rfl)
  | entries => exact .ok (.scalar (.int _) rfl)
  | list h =>
    rw [size, size]
    simp only [unwrap, sequence?, h.length_eq]
    exact .ok (.scalar (.int _) rfl)

theorem agree_first (h : Value.Corresponds v w) : Agree Value.Corresponds (first args v) (first args w) := by
  rw [first, first, h.unwrap_left, h.unwrap_right]
  rcases h.run with ⟨hv, hw⟩ | ⟨r, s, hv, hw, hrs⟩ <;> rw [hv, hw]
  · exact .ok .absent
  · exact .ok (corresponds_getD hrs.first)

theorem agree_last (h : Value.Corresponds v w) : Agree Value.Corresponds (last args v) (last args w) := by
  rw [last, last, h.unwrap_left, h.unwrap_right]
  rcases h.run with ⟨hv, hw⟩ | ⟨r, s, hv, hw, hrs⟩ <;> rw [hv, hw]
  · exact .ok .absent
  · exact .ok (corresponds_getD hrs.last)

theorem agree_reversed (h : Value.Corresponds v w) : Agree Value.Corresponds (reversed args v) (reversed args w) := by
  rw [reversed, reversed, h.unwrap_left, h.unwrap_right]
  rcases h.run with ⟨hv, hw⟩ | ⟨r, s, hv, hw, hrs⟩ <;> rw [hv, hw]
  · exact .ok .absent
  · exact .ok (hrs.cut fun _ _ h => List.rel_reverse h)

theorem agree_slice (h : Value.Corresponds v w) : Agree Value.Corresponds (slice args v) (slice args w) := by
  rw [slice, slice, h.unwrap_left, h.unwrap_right]
  refine Agree.bind_same fun start _ => ?_
  rcases h.run with ⟨hv, hw⟩ | ⟨r, s, hv, hw, hrs⟩ <;> rw [hv, hw]
  · exact .ok .absent
  · cases start with
    | none => exact .ok .absent
    | some start =>
      dsimp only
      rw [hrs.length_eq]
      split
      all_goals
        refine Agree.bind_same fun stop _ => ?_
        cases stop with
        | none => exact .ok .absent
        | some stop => exact .ok (hrs.cut fun _ _ h => List.forall₂_drop _ (List.forall₂_take _ h))

theorem agree_counted {f : Int → Run → Run}
    (hf : ∀ count r s, Run.Corresponds r s → Value.Corresponds (f count r).toValue (f count s).toValue)
    (h : Value.Corresponds v w) : Agree Value.Corresponds (counted f args v) (counted f args w) := by
  rw [counted, counted, h.unwrap_left, h.unwrap_right]
  refine Agree.bind_same fun count _ => ?_
  rcases h.run with ⟨hv, hw⟩ | ⟨r, s, hv, hw, hrs⟩ <;> rw [hv, hw]
  · exact .ok .absent
  · cases count with
    | none => exact .ok .absent
    | some count => exact .ok (hf count r s hrs)

theorem agree_take (h : Value.Corresponds v w) : Agree Value.Corresponds (take args v) (take args w) := by
  rw [take_eq_counted]
  exact agree_counted args (fun _ _ _ hrs => hrs.cut fun _ _ h => List.forall₂_take _ h) h

theorem agree_takeLast (h : Value.Corresponds v w) : Agree Value.Corresponds (takeLast args v) (takeLast args w) := by
  rw [takeLast_eq_counted]
  refine agree_counted args (fun count _ _ hrs => hrs.cut fun vs ws h => ?_) h
  rw [lastOf, lastOf, h.length_eq]
  exact List.forall₂_drop _ h

theorem agree_navigateBy (h : Value.Corresponds v w) (path : Value) :
    Agree Value.Corresponds (Path.navigateBy v path) (Path.navigateBy w path) := by
  have hroot : Agree Value.Corresponds (ε := Error) (.ok v.unwrap) (.ok w.unwrap) := by
    rw [h.unwrap_left, h.unwrap_right]
    exact .ok h
  cases path with
  | text s => exact Path.agree_navigate (.inr h) s
  | octets bytes =>
    rw [Path.navigateBy, Path.navigateBy]
    split
    · exact hroot
    · exact .error
  | _ =>
    rw [Path.navigateBy, Path.navigateBy]
    · split
      · exact hroot
      · exact .error
    all_goals simp

theorem agree_project (field : Value) (h : List.Forall₂ Value.Corresponds vs ws) :
    Agree (List.Forall₂ Value.Corresponds) (project field vs) (project field ws) := by
  induction h with
  | nil => exact .ok .nil
  | cons hvw _ ih =>
    refine (agree_navigateBy hvw field).bind fun _ _ hfound => ?_
    exact ih.bind fun _ _ hrest => .ok (.cons hfound hrest)

theorem agree_map (h : Value.Corresponds v w) : Agree Value.Corresponds (map args v) (map args w) := by
  rw [map, map, h.unwrap_left, h.unwrap_right]
  rcases h.sequence with ⟨hv, hw⟩ | ⟨vs, ws, hv, hw, hvw⟩ <;> rw [hv, hw]
  · exact .ok .absent
  · cases fieldArg? args with
    | none => exact .ok .absent
    | some field => exact (agree_project field hvw).bind fun _ _ h => .ok (.list h)

theorem agree_maxNum (h : Value.Corresponds v w) : Agree Value.Corresponds (maxNum args v) (maxNum args w) := by
  rw [maxNum, picked, picked, h.collectNumbers_eq]
  refine Agree.bind_same fun numbers _ => ?_
  cases greatest? numbers with
  | none => exact .ok .absent
  | some x =>
    refine Agree.bind_same fun places _ => ?_
    cases places with
    | none => exact .ok (.scalar (.float _) rfl)
    | some places =>
      rw [rounded]
      cases Number.roundTo? x places with
      | none => exact .error
      | some y => exact .ok (.scalar (.float _) rfl)

/-! ## Filters -/

/-- No field value that the comparison reaches is a list or a map. -/
def ComparesLeaves (field : Value) (expected : String) : List Value → Prop
  | [] => True
  | item :: items =>
    (item.isFielded → ∀ v, Path.navigateBy item field = .ok v → v.isLeaf) ∧
      ∀ found, agrees field expected item = .ok found → ComparesLeaves field expected items

/-- The same of a filter that is given a value. -/
def FiltersLeaves (args : List Value) (v : Value) : Prop :=
  ∀ expected items field, rejoin args.tail = .ok expected → args.tail ≠ [] → fieldArg? args = some field →
    v.unwrap.sequence? = some items → ComparesLeaves field expected items

theorem agrees_eq {field : Value} {expected : String} (h : Value.Corresponds v w)
    (hl : w.isFielded → ∀ x, Path.navigateBy w field = .ok x → x.isLeaf) :
    agrees field expected v = agrees field expected w := by
  rw [agrees, agrees, h.isFielded_eq]
  by_cases hf : w.isFielded
  · have hn : Path.navigateBy v field = Path.navigateBy w field :=
      (agree_navigateBy h field).eq fun _ x hx hab => hab.eq_of_isLeaf (hl hf x hx)
    rw [hn]
  · simp [hf]

theorem agree_keep {field : Value} {expected : String} (h : List.Forall₂ Value.Corresponds vs ws)
    (hl : ComparesLeaves field expected ws) :
    Agree (List.Forall₂ Value.Corresponds) (keep field expected vs) (keep field expected ws) := by
  induction h with
  | nil => exact .ok .nil
  | cons hvw _ ih =>
    rw [keep, keep, agrees_eq hvw hl.1]
    refine Agree.bind_same fun found hfound => ?_
    refine (ih (hl.2 found hfound)).bind fun _ _ hrest => .ok ?_
    split
    · exact .cons hvw hrest
    · exact hrest

theorem agree_filter (h : Value.Corresponds v w) (hl : FiltersLeaves args w) :
    Agree Value.Corresponds (filter args v) (filter args w) := by
  rw [filter, filter]
  refine Agree.bind_same fun expected hexpected => ?_
  have hs := h.sequence
  rw [← h.unwrap_left, ← h.unwrap_right] at hs
  rcases hs with ⟨hv, hw⟩ | ⟨vs, ws, hv, hw, hvw⟩ <;> rw [hv, hw]
  · exact .ok .absent
  · cases hfield : fieldArg? args with
    | none => exact .ok .absent
    | some field =>
      dsimp only
      by_cases ht : args.tail = []
      · simp only [ht]
        exact .ok .absent
      · have hk := hl expected ws field hexpected ht hfield hw
        have he : args.tail.isEmpty = false := by simpa using ht
        simp only [he]
        exact (agree_keep hvw hk).bind fun _ _ h => .ok (.list h)

end Pipe

namespace StandardPipe

variable {v w : Value} {args : List Value}

theorem agree_body (p : StandardPipe) (h : Value.Corresponds v w) (hl : p = .filter → Pipe.FiltersLeaves args w) :
    Agree Value.Corresponds (p.body args v) (p.body args w) := by
  cases p with
  | size => exact Pipe.agree_size args h
  | first => exact Pipe.agree_first args h
  | last => exact Pipe.agree_last args h
  | reversed => exact Pipe.agree_reversed args h
  | slice => exact Pipe.agree_slice args h
  | take => exact Pipe.agree_take args h
  | takeLast => exact Pipe.agree_takeLast args h
  | filter => exact Pipe.agree_filter args h (hl rfl)
  | map => exact Pipe.agree_map args h
  | maxNum => exact Pipe.agree_maxNum args h

theorem agree_run (p : StandardPipe) (h : Value.Corresponds v w) (hl : p = .filter → Pipe.FiltersLeaves args w) :
    Agree Value.Corresponds (p.run args v) (p.run args w) := by
  rw [run, Pipe.passingAbsence, Pipe.passingAbsence, h.isAbsent_eq]
  split
  · exact .ok .absent
  · exact p.agree_body h hl

end StandardPipe

end Stencil
