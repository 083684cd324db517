import Mathlib.Logic.Relation
import Stencil.Proofs.Value.Part

/-!
Contexts whose leaf nodes hold scalars, such as documents and their nodes. Main statements: nothing depends on whether a
leaf is replaced by its host value before a path goes on, or more than once; what holds of all nodes inside of a value
holds of those that paths meet.
-/

namespace Stencil

open Outcome Relation

namespace Path

def Leads : Value → Value → Prop := ReflTransGen fun v w => ∃ segment, step v segment = .ok w

end Path

namespace Value

variable {v w : Value} {items : List Value} {segment : String}

/-- A leaf among the nodes that paths meet holds a text, a number, a truth value or nothing. -/
def HasScalarLeaves (v : Value) : Prop := ∀ kind raw, Path.Leads v (.tree kind raw) → raw.isLeaf → raw.IsDocument

theorem HasScalarLeaves.step (h : v.HasScalarLeaves) (hw : Path.step v segment = .ok w) : w.HasScalarLeaves :=
  fun kind raw hr => h kind raw (.head ⟨segment, hw⟩ hr)

theorem HasScalarLeaves.unwrap_unwrap (h : v.HasScalarLeaves) : v.unwrap.unwrap = v.unwrap := by
  cases v with
  | tree kind raw =>
    by_cases hl : raw.isLeaf
    · rw [unwrap, if_pos hl, (h kind raw .refl hl).unwrap_eq]
    · rw [unwrap, if_neg hl, unwrap, if_neg hl]
  | _ => rfl

theorem HasScalarLeaves.walk_unwrap (h : v.HasScalarLeaves) (segments : List String) :
    Path.walk v.unwrap segments = Path.walk v segments := by
  cases v with
  | tree kind raw =>
    by_cases hl : raw.isLeaf
    · rw [unwrap, if_pos hl]
      have hd := h kind raw .refl hl
      cases segments with
      | nil => rw [Path.walk, Path.walk, unwrap, if_pos hl, hd.unwrap_eq]
      | cons segment rest =>
        -- Nothing is read from a leaf, nor from the scalar that it holds.
        rw [Path.walk_cons, Path.walk_cons]
        cases hd with
        | list => cases hl
        | map => cases hl
        | _ => rfl
    · rw [unwrap, if_neg hl]
  | _ => rfl

theorem HasScalarLeaves.unwrap_of_walk (h : v.HasScalarLeaves) {segments : List String}
    (hw : Path.walk v segments = .ok w) : w.unwrap = w := by
  induction segments generalizing v with
  | nil =>
    rw [Path.walk] at hw
    cases hw
    exact h.unwrap_unwrap
  | cons segment rest ih =>
    rw [Path.walk_cons] at hw
    obtain ⟨found, hfound, hrest⟩ := bind_eq_ok_iff.1 hw
    exact ih (h.step hfound) hrest

/-- Every leaf among the nodes inside of a value holds a text, a number, a truth value or nothing. -/
def AllLeavesScalar (v : Value) : Prop :=
  ∀ kind raw, ReflTransGen Holds v (.tree kind raw) → raw.isLeaf → raw.IsDocument

theorem holds_of_leads (h : Path.Leads v w) : w = .absent ∨ ReflTransGen Holds v w := by
  induction h with
  | refl => exact .inr .refl
  | tail _ hs ih =>
    obtain ⟨segment, hs⟩ := hs
    rcases ih with rfl | ih
    · cases hs
      exact .inl rfl
    · exact (holds_of_step hs).imp_right ih.tail

theorem AllLeavesScalar.hasScalarLeaves (h : v.AllLeavesScalar) : v.HasScalarLeaves := by
  intro kind raw hr
  rcases holds_of_leads hr with he | hh
  · cases he
  · exact h kind raw hh

theorem AllLeavesScalar.of_holds (h : v.AllLeavesScalar) (hw : Holds v w) : w.AllLeavesScalar :=
  fun kind raw hr => h kind raw (.head hw hr)

theorem allLeavesScalar_of_holds (hroot : v.isTree = false) (h : ∀ w, Holds v w → w.AllLeavesScalar) :
    v.AllLeavesScalar := by
  intro kind raw hr
  rcases hr.cases_head with rfl | ⟨w, hw, hr⟩
  · cases hroot
  · exact h w hw kind raw hr

/-- A document or the node of one. -/
inductive OfDocument : Value → Prop
  | plain {d : Value} : d.IsDocument → OfDocument d
  | node {d : Value} : d.IsDocument → OfDocument (.node d)

theorem OfDocument.of_holds (h : v.OfDocument) (hw : Holds v w) : w.OfDocument := by
  cases h with
  | plain hd =>
    cases hw with
    | list hm => exact .plain (hd.of_list _ hm)
    | map hm => exact .plain (hd.of_map _ hm).2
    | _ => cases hd
  | node hd =>
    cases hw with
    | element hm => exact .node (hd.of_list _ hm)
    | child hm => exact .node (hd.of_map _ hm).2

theorem OfDocument.allLeavesScalar (h : v.OfDocument) : v.AllLeavesScalar := by
  have hparts : ∀ w, ReflTransGen Holds v w → w.OfDocument := by
    intro w hr
    induction hr with
    | refl => exact h
    | tail _ hw ih => exact ih.of_holds hw
  intro kind raw hr _
  cases hparts _ hr with
  | plain hd => cases hd
  | node hd => exact hd

theorem OfDocument.hasScalarLeaves (h : v.OfDocument) : v.HasScalarLeaves := h.allLeavesScalar.hasScalarLeaves

theorem AllLeavesScalar.unwrap (h : v.AllLeavesScalar) : v.unwrap.AllLeavesScalar := by
  cases v with
  | tree kind raw =>
    by_cases hl : raw.isLeaf
    · rw [Value.unwrap, if_pos hl]
      exact (OfDocument.plain (h kind raw .refl hl)).allLeavesScalar
    · rw [Value.unwrap, if_neg hl]
      exact h
  | _ => exact h

theorem AllLeavesScalar.of_sequence (h : v.AllLeavesScalar) (hs : v.sequence? = some items) :
    ∀ item ∈ items, item.AllLeavesScalar := by
  intro item hitem
  cases v with
  | list =>
    cases hs
    exact h.of_holds (.list hitem)
  | tuple =>
    cases hs
    exact h.of_holds (.tuple hitem)
  | keys =>
    cases hs
    exact h.of_holds (.keys hitem)
  | tree kind raw =>
    cases raw with
    | list others =>
      cases hs
      obtain ⟨other, hother, rfl⟩ := List.mem_map.1 hitem
      exact (h.of_holds (.element hother)).unwrap
    | _ => cases hs
  | _ => cases hs

end Value

end Stencil
