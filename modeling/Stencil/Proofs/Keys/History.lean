import Stencil.Proofs.Keys.Workshop
import Stencil.Proofs.Outcome

/-!
What a workshop keeps. Main statement: whatever is called, a resolver is found under its identity, and so are all that
delegation leads to, so identities tell them apart.
-/

namespace Stencil

open Relation Outcome

namespace Resolver

def isBound : Resolver → Bool
  | .bound .. => true
  | .foreign .. => false

/-- Delegation leads from the one to the other, or they are the same. -/
def Reaches : Resolver → Resolver → Prop := ReflTransGen fun r d => d ∈ r.delegates

/-- Identities tell the resolvers apart that are reached. -/
def Identified (r : Resolver) : Prop := ∀ s t, r.Reaches s → r.Reaches t → s.id = t.id → s = t

end Resolver

namespace Workshop

variable {w after : Workshop} {r s other : Resolver} {c : Call} {made : Workshop × Resolver}

/-! ## What a call makes -/

theorem eq_grown_of_takeIn (h : w.takeIn r = .ok after) : after = w.grown r := by
  simp only [takeIn] at h
  split at h
  · split at h <;> cases h
  · exact (Except.ok.inj h).symm

theorem eq_of_make {bindings : Bindings} {delegates : List Resolver} {ns : Value}
    (h : w.make bindings delegates ns = .ok made) :
    made = (w.grown (.bound w.nextId bindings delegates ns), .bound w.nextId bindings delegates ns) := by
  obtain ⟨taken, htaken, hmade⟩ := bind_eq_ok_iff.1 h
  rw [eq_grown_of_takeIn htaken] at hmade
  exact (Except.ok.inj hmade).symm

theorem eq_of_addKey {key : Key} {handler : Handler} (h : w.addKey r key handler = .ok made) :
    r.isBound ∧ made = (w.grown (r.withKey w.nextId key handler), r.withKey w.nextId key handler) := by
  cases r with
  | foreign => cases h
  | bound =>
    obtain ⟨taken, htaken, hmade⟩ := bind_eq_ok_iff.1 h
    rw [eq_grown_of_takeIn htaken] at hmade
    exact ⟨rfl, (Except.ok.inj hmade).symm⟩

theorem eq_of_addDelegate (h : w.addDelegate r other = .ok made) :
    r.isBound ∧ made = (w.grown (r.withDelegate w.nextId other), r.withDelegate w.nextId other) := by
  cases r with
  | foreign => cases h
  | bound =>
    obtain ⟨taken, htaken, hmade⟩ := bind_eq_ok_iff.1 h
    rw [eq_grown_of_takeIn htaken] at hmade
    exact ⟨rfl, (Except.ok.inj hmade).symm⟩

theorem Call.eq_of_run (h : c.run w = .ok made) :
    ∃ r, made = (w.grown r, r) ∧ r.id = w.nextId ∧
      ∀ d ∈ r.delegates, d ∈ c.operands ∨ ∃ s ∈ c.operands, d ∈ s.delegates := by
  cases c with
  | make bindings delegates ns =>
    obtain rfl := eq_of_make h
    exact ⟨_, rfl, rfl, fun d hd => .inl hd⟩
  | addKey s key handler =>
    obtain ⟨-, rfl⟩ := eq_of_addKey h
    exact ⟨_, rfl, rfl, fun d hd => .inr ⟨s, List.mem_singleton_self s, hd⟩⟩
  | addDelegate s other =>
    obtain ⟨-, rfl⟩ := eq_of_addDelegate h
    refine ⟨_, rfl, rfl, fun d hd => ?_⟩
    rcases List.mem_append.1 hd with hd | hd
    · exact .inr ⟨s, List.mem_cons_self, hd⟩
    · exact .inl (List.mem_cons_of_mem s hd)

/-- A run that makes bound resolvers only is never refused one of resolvers that it made. -/
theorem Run.make_eq (hw : w.Run) {delegates : List Resolver} (hd : delegates ⊆ w.made) (bindings : Bindings)
    (ns : Value) :
    w.make bindings delegates ns =
      .ok (w.grown (.bound w.nextId bindings delegates ns), .bound w.nextId bindings delegates ns) := by
  obtain ⟨r, -, hmake⟩ := hw.layered.run (c := .make bindings delegates ns) fun s hs => hd hs
  rw [Call.run] at hmake
  rw [hmake, eq_of_make hmake]

/-! ## What all calls keep -/

inductive History : Workshop → Prop
  | start : History .start
  | call {w : Workshop} {c : Call} {made : Workshop × Resolver} :
      History w → (∀ r ∈ c.operands, r ∈ w.made) → c.run w = .ok made → History made.1
  | makeForeign {w : Workshop} (label : String) (references : List String) :
      History w → History (w.makeForeign label references).1
  | keep {w : Workshop} {r : Resolver} (name : String) : History w → r ∈ w.made → History (w.keep name r)

/-- Every resolver is in the place of its identity, and its delegates are there too. -/
structure Placed (w : Workshop) : Prop where
  getElem_id : ∀ r ∈ w.made, w.made[r.id]? = some r
  delegates_made : ∀ r ∈ w.made, ∀ d ∈ r.delegates, d ∈ w.made

theorem start_placed : start.Placed where
  getElem_id := by simp [start, Resolver.numbers, Resolver.fromContext, Resolver.id]
  delegates_made := by simp [start, Resolver.numbers, Resolver.fromContext, Resolver.delegates]

theorem Placed.grown (hw : w.Placed) (hid : r.id = w.nextId) (hr : ∀ d ∈ r.delegates, d ∈ w.made) :
    (w.grown r).Placed where
  getElem_id s hs := by
    rcases List.mem_append.1 hs with hs | hs
    · have hplace := hw.getElem_id s hs
      exact (List.getElem?_append_left (List.getElem?_eq_some_iff.1 hplace).1).trans hplace
    · obtain rfl := List.mem_singleton.1 hs
      rw [hid]
      exact List.getElem?_concat_length
  delegates_made s hs d hd := by
    rcases List.mem_append.1 hs with hs | hs
    · exact List.mem_append_left _ (hw.delegates_made s hs d hd)
    · obtain rfl := List.mem_singleton.1 hs
      exact List.mem_append_left _ (hr d hd)

theorem History.placed (h : w.History) : w.Placed := by
  induction h with
  | start => exact start_placed
  | call _ hc hmade ih =>
    obtain ⟨r, rfl, hid, hr⟩ := Call.eq_of_run hmade
    refine ih.grown hid fun d hd => ?_
    rcases hr d hd with hd | ⟨s, hs, hd⟩
    · exact hc d hd
    · exact ih.delegates_made s (hc s hs) d hd
  | @makeForeign w label references _ ih =>
    have hgrown := ih.grown (r := (w.makeForeign label references).2) rfl fun d hd => nomatch hd
    exact ⟨hgrown.getElem_id, hgrown.delegates_made⟩
  | keep _ _ _ ih => exact ⟨ih.getElem_id, ih.delegates_made⟩

theorem Placed.made_of_reaches (hw : w.Placed) (hr : r ∈ w.made) (h : r.Reaches s) : s ∈ w.made := by
  induction h with
  | refl => exact hr
  | tail _ hd ih => exact hw.delegates_made _ ih _ hd

theorem Placed.identified (hw : w.Placed) (hr : r ∈ w.made) : r.Identified := by
  intro s t hs ht hid
  have hsame := hw.getElem_id s (hw.made_of_reaches hr hs)
  rw [hid, hw.getElem_id t (hw.made_of_reaches hr ht)] at hsame
  exact (Option.some.inj hsame).symm

end Workshop

end Stencil
