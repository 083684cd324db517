import Stencil.Proofs.Pipe.Registration
import Stencil.Proofs.Text.Pieces
import Stencil.Proofs.Value.Leaf

/-!
Paths that go on where another one ends. Main statement: to follow a path and then a second one is to follow both as one
path, from a value and from each element that a pipe maps.
-/

namespace Stencil

open Outcome

namespace Path

variable {v : Value} {p q : String}

theorem split_append (hp : p ≠ "") (hq : q ≠ "") : split (p ++ "." ++ q) = split p ++ split q := by
  have hlist : (p ++ "." ++ q).toList = p.toList ++ '.' :: q.toList := by simp
  have hne : p ++ "." ++ q ≠ "" := fun he => by simp [he] at hlist
  rw [split, split, split, if_neg hne, if_neg hp, if_neg hq, hlist, Text.splitChar_append, List.map_append]

/-- The first path replaces a leaf that it ends at, which nothing behind it can tell. -/
theorem walk_append (h : v.HasScalarLeaves) (front back : List String) :
    walk v (front ++ back) = walk v front >>= fun found => walk found back := by
  induction front generalizing v with
  | nil => rw [List.nil_append, walk, ok_bind, h.walk_unwrap]
  | cons segment front ih =>
    rw [List.cons_append, walk_cons, walk_cons]
    cases hs : step v segment with
    | error err => rfl
    | ok found => exact ih (h.step hs)

theorem navigate_append (h : v.HasScalarLeaves) (hp : p ≠ "") (hq : q ≠ "") :
    navigate v (p ++ "." ++ q) = navigate v p >>= fun found => navigate found q := by
  rw [navigate, split_append hp hq]
  exact walk_append h _ _

end Path

namespace Pipe

variable {v item field : Value} {items found : List Value} {p q : String}

theorem project_cons_eq_ok_iff :
    project field (item :: items) = .ok found ↔
      ∃ w others, Path.navigateBy item field = .ok w ∧ project field items = .ok others ∧ w :: others = found := by
  simp [project, bind_eq_ok_iff]

/-- All elements are followed along the first path before one is followed along the second, so it need not be the same
element that fails. -/
theorem project_append (h : ∀ item ∈ items, item.HasScalarLeaves) (hp : p ≠ "") (hq : q ≠ "") :
    project (.text p) items >>= project (.text q) = .ok found ↔
      project (.text (p ++ "." ++ q)) items = .ok found := by
  induction items generalizing found with
  | nil => exact Iff.rfl
  | cons item items ih =>
    obtain ⟨hitem, hitems⟩ := List.forall_mem_cons.1 h
    have hnavigate (w : Value) : Path.navigateBy item (.text (p ++ "." ++ q)) = .ok w ↔
        ∃ between, Path.navigateBy item (.text p) = .ok between ∧ Path.navigateBy between (.text q) = .ok w := by
      rw [← bind_eq_ok_iff]
      exact Eq.congr_left (Path.navigate_append hitem hp hq)
    have hrest (others : List Value) := (@ih others hitems).symm
    simp only [bind_eq_ok_iff] at hrest
    rw [bind_eq_ok_iff, project_cons_eq_ok_iff]
    simp only [project_cons_eq_ok_iff, hnavigate, hrest]
    constructor
    · rintro ⟨_, ⟨between, middle, hbetween, hmiddle, rfl⟩, hfound⟩
      obtain ⟨w, others, hw, hothers, rfl⟩ := project_cons_eq_ok_iff.1 hfound
      exact ⟨w, others, ⟨between, hbetween, hw⟩, ⟨middle, hmiddle, hothers⟩, rfl⟩
    · rintro ⟨w, others, ⟨between, hbetween, hw⟩, ⟨middle, hmiddle, hothers⟩, rfl⟩
      exact ⟨_, ⟨between, middle, hbetween, hmiddle, rfl⟩, project_cons_eq_ok_iff.2 ⟨w, others, hw, hothers, rfl⟩⟩

theorem map_of_sequence (h : v.unwrap.sequence? = some items) (path : String) :
    map [.text path] v = (project (.text path) items).map .list := by
  have hfield : fieldArg? [.text path] = some (.text path) := rfl
  rw [map, h, hfield]
  cases hproject : project (.text path) items <;> simp only [hproject] <;> rfl

theorem map_of_not_sequence (h : v.unwrap.sequence? = none) (args : List Value) : map args v = .ok .absent := by
  rw [map, h]

theorem map_append (h : v.AllLeavesScalar) (hp : p ≠ "") (hq : q ≠ "") {w : Value} :
    map [.text p] v >>= map [.text q] = .ok w ↔ map [.text (p ++ "." ++ q)] v = .ok w := by
  cases hs : v.unwrap.sequence? with
  | none =>
    rw [map_of_not_sequence hs, map_of_not_sequence hs, ok_bind]
    exact Iff.rfl
  | some items =>
    have hitems : ∀ item ∈ items, item.HasScalarLeaves :=
      fun item hitem => (h.unwrap.of_sequence hs item hitem).hasScalarLeaves
    have hlist (found : List Value) : map [.text q] (.list found) = (project (.text q) found).map .list :=
      map_of_sequence rfl q
    rw [map_of_sequence hs, map_of_sequence hs, map_eq_ok_iff, bind_eq_ok_iff]
    simp only [map_eq_ok_iff, ← project_append hitems hp hq, bind_eq_ok_iff]
    constructor
    · rintro ⟨_, ⟨middle, hmiddle, rfl⟩, hw⟩
      rw [hlist, map_eq_ok_iff] at hw
      obtain ⟨found, hfound, rfl⟩ := hw
      exact ⟨found, ⟨middle, hmiddle, hfound⟩, rfl⟩
    · rintro ⟨found, ⟨middle, hmiddle, hfound⟩, rfl⟩
      exact ⟨_, ⟨middle, hmiddle, rfl⟩, by rw [hlist, hfound]; rfl⟩

end Pipe

theorem Registry.apply_map (r : Registry) (args : List Value) (v : Value) : r.apply "map" args v = Pipe.map args v :=
  r.apply_standard .map args rfl v

namespace Path

/-- Following one path and then another is following them as one. To map elements along one and then the other gives
what it gives to map them along both, or fails where that fails. -/
theorem navigate_composes (v : Value) (h : v.AllLeavesScalar) (p q : String) (hp : p ≠ "") (hq : q ≠ "") :
    navigate v (p ++ "." ++ q) = (do navigate (← navigate v p) q) ∧
      ∀ (r : Registry) (w : Value),
        (do r.apply "map" [.text q] (← r.apply "map" [.text p] v)) = .ok w ↔
          r.apply "map" [.text (p ++ "." ++ q)] v = .ok w := by
  refine ⟨navigate_append h.hasScalarLeaves hp hq, fun r w => ?_⟩
  simp only [Registry.apply_map]
  exact Pipe.map_append h hp hq

/-- Two nodes of documents. The first one has a list under the name that the second one has a leaf under. -/
def readings : Value :=
  .list [.node (.map [(.text "a", .list [.int 1, .int 2])]), .node (.map [(.text "a", .int 3)])]

theorem readings_allLeavesScalar : readings.AllLeavesScalar := by
  refine Value.allLeavesScalar_of_holds rfl fun w hw => ?_
  cases hw with
  | list hm =>
    have hlist : (Value.list [.int 1, .int 2]).IsDocument := .list (by simpa using ⟨.int 1, .int 2⟩)
    have hfirst : (Value.map [(.text "a", .list [.int 1, .int 2])]).IsDocument := .map (by simp) (by simpa using hlist)
    have hsecond : (Value.map [(.text "a", .int 3)]).IsDocument := .map (by simp) (by simpa using .int 3)
    rcases (by simpa using hm : w = _ ∨ w = _) with rfl | rfl
    · exact (Value.OfDocument.node hfirst).allLeavesScalar
    · exact (Value.OfDocument.node hsecond).allLeavesScalar

theorem navigate_composes_readings :
    navigate readings ("1.a" ++ "." ++ "b.c") = .ok .absent ∧
      (do Registry.empty.apply "map" [.text "-1"] (← Registry.empty.apply "map" [.text "a"] readings)) =
        .ok (.list [.int 2, .absent]) := by
  obtain ⟨hfirst, -⟩ := navigate_composes readings readings_allLeavesScalar "1.a" "b.c" (by decide) (by decide)
  obtain ⟨-, hsecond⟩ := navigate_composes readings readings_allLeavesScalar "a" "-1" (by decide) (by decide)
  have hmap : Registry.empty.apply "map" [.text ("a" ++ "." ++ "-1")] readings = .ok (.list [.int 2, .absent]) := by rfl
  have hfound : navigate readings "1.a" = .ok (.int 3) := by rfl
  refine ⟨?_, (hsecond _ _).2 hmap⟩
  rw [hfirst, hfound]
  rfl

end Path

end Stencil
