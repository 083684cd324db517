import Mathlib.Data.List.Forall2
import Stencil.Path
import Stencil.Proofs.Outcome
import Stencil.Proofs.Value.Document

/-!
Documents read through nodes and documents read as they are. Main statement: navigation takes values that correspond to
values that correspond, along every path.
-/

namespace Stencil

namespace Value

/-- Equal scalars, a node and the list or map that it holds, or lists of values that correspond in turn. -/
inductive Corresponds : Value → Value → Prop
  | scalar {v : Value} : v.IsDocument → v.isLeaf → Corresponds v v
  | items {vs : List Value} : (Value.list vs).IsDocument → Corresponds (.node (.list vs)) (.list vs)
  | entries {es : List (Value × Value)} : (Value.map es).IsDocument → Corresponds (.node (.map es)) (.map es)
  | list {vs ws : List Value} : List.Forall₂ Corresponds vs ws → Corresponds (.list vs) (.list ws)

/-- What navigation meets on its way: a node of any kind and what it holds, or values that correspond. -/
def Beside (v w : Value) : Prop := (v = .node w ∧ w.IsDocument) ∨ Corresponds v w

variable {v w : Value} {vs ws : List Value}

theorem Corresponds.absent : Corresponds .absent .absent := .scalar .absent rfl

theorem corresponds_unwrap_node (h : w.IsDocument) : Corresponds (unwrap (.node w)) w := by
  cases h with
  | list h => exact .items (.list h)
  | map hk hv => exact .entries (.map hk hv)
  | absent => exact .absent
  | bool b => exact .scalar (.bool b) rfl
  | int n => exact .scalar (.int n) rfl
  | float x => exact .scalar (.float x) rfl
  | text s => exact .scalar (.text s) rfl

theorem Corresponds.unwrap_left (h : Corresponds v w) : v.unwrap = v := by
  cases h with
  | scalar hd _ => exact hd.unwrap_eq
  | _ => rfl

theorem Corresponds.unwrap_right (h : Corresponds v w) : w.unwrap = w := by
  cases h with
  | scalar hd _ => exact hd.unwrap_eq
  | _ => rfl

theorem Beside.unwrap (h : Beside v w) : Corresponds v.unwrap w.unwrap := by
  rcases h with ⟨rfl, hd⟩ | h
  · rw [hd.unwrap_eq]
    exact corresponds_unwrap_node hd
  · rw [h.unwrap_left, h.unwrap_right]
    exact h

theorem forall₂_getElem {R : Value → Value → Prop} (h : List.Forall₂ R vs ws) (i : Nat) :
    Option.Rel R vs[i]? ws[i]? := by
  induction h generalizing i with
  | nil => exact .none
  | cons hvw _ ih =>
    cases i with
    | zero => exact .some hvw
    | succ i => exact ih i

theorem forall₂_elementAt {R : Value → Value → Prop} (h : List.Forall₂ R vs ws) (index : Int) :
    Option.Rel R (elementAt? vs index) (elementAt? ws index) := by
  rw [elementAt?, elementAt?, h.length_eq]
  split
  · exact forall₂_getElem h _
  · split
    · exact forall₂_getElem h _
    · exact .none

theorem beside_element {items : List Value} (hd : (Value.list items).IsDocument) (index : Int) :
    Option.Rel Beside (element? .document (.list items) index) (elementAt? items index) := by
  rw [element?]
  cases h : elementAt? items index with
  | none => exact .none
  | some v => exact .some (.inl ⟨rfl, hd.elementAt h⟩)

theorem beside_child {entries : List (Value × Value)} (hd : (Value.map entries).IsDocument) (name : String) :
    Option.Rel Beside (child? .document (.map entries) name) (lookup? entries name) := by
  rw [child?]
  cases h : lookup? entries name with
  | none => exact .none
  | some v => exact .some (.inl ⟨rfl, hd.lookup h⟩)

theorem beside_getD {x y : Option Value} (h : Option.Rel Beside x y) : Beside (x.getD .absent) (y.getD .absent) := by
  cases h with
  | none => exact .inr .absent
  | some h => exact h

end Value

namespace Path

open Value Outcome

variable {v w : Value}

theorem agree_stepInto {f g : Int → Option Value} (h : ∀ i, Option.Rel Beside (f i) (g i)) (segment : String) :
    Agree Beside (stepInto segment f) (stepInto segment g) := by
  refine Agree.bind_same fun index _ => ?_
  cases index with
  | none => exact .ok (.inr .absent)
  | some i => exact .ok (beside_getD (h i))

theorem agree_step_node (h : w.IsDocument) (segment : String) :
    Agree Beside (step (.node w) segment) (step w segment) := by
  cases h with
  | list hd => exact agree_stepInto (beside_element (.list hd)) segment
  | map hk hv => exact .ok (beside_getD (beside_child (.map hk hv) segment))
  | _ => exact .ok (.inr .absent)

theorem agree_step (h : Beside v w) (segment : String) : Agree Beside (step v segment) (step w segment) := by
  rcases h with ⟨rfl, hd⟩ | h
  · exact agree_step_node hd segment
  · cases h with
    | items hd => exact agree_step_node hd segment
    | entries hd => exact agree_step_node hd segment
    | list hvw => exact agree_stepInto (forall₂_elementAt (hvw.imp fun _ _ => .inr)) segment
    | scalar hd hl =>
      cases hd with
      | list => cases hl
      | map => cases hl
      | _ => exact .ok (.inr .absent)

/-- Nothing is read from absence, so absence needs no case of its own. -/
theorem walk_cons (v : Value) (segment : String) (rest : List String) :
    walk v (segment :: rest) = step v segment >>= fun found => walk found rest := by
  cases v with
  | absent => cases rest <;> rfl
  | _ => rfl

theorem agree_walk (h : Beside v w) (segments : List String) : Agree Corresponds (walk v segments) (walk w segments) := by
  induction segments generalizing v w with
  | nil =>
    rw [walk, walk]
    exact .ok h.unwrap
  | cons segment rest ih =>
    rw [walk_cons, walk_cons]
    exact (agree_step h segment).bind fun _ _ => ih

theorem agree_navigate (h : Beside v w) (path : String) : Agree Corresponds (navigate v path) (navigate w path) :=
  agree_walk h _

end Path

end Stencil
