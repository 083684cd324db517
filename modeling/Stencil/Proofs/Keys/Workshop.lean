import Stencil.Keys.Workshop
import Stencil.Proofs.Delegation.Walk

/-!
What a workshop refuses to make. Main statement: exactly the resolvers that reach a cycle, with a chain that shows it;
so where all resolvers are bound ones, none.
-/

namespace Stencil.Workshop

open Delegation

variable {w : Workshop} {r : Resolver} {i first : Nat} {chain : List Nat}

def Complete (w : Workshop) : Prop := Closed w.delegatesOf (List.range w.made.length)

def grown (w : Workshop) (r : Resolver) : Workshop := { w with made := w.made ++ [r] }

theorem exists_cycle_iff (hw : w.Complete) (hs : first < w.nextId) :
    (∃ chain, w.cycle? first = some chain) ↔ ReachesCycle (Leads w.delegatesOf) first :=
  exists_cycle_iff_reachesCycle List.nodup_range hw (List.mem_range.2 hs)

theorem showsCycle_of_cycle (hw : w.Complete) (hs : first < w.nextId) (h : w.cycle? first = some chain) :
    ShowsCycle (Leads w.delegatesOf) first chain :=
  Delegation.showsCycle_of_cycle List.nodup_range hw (List.mem_range.2 hs) h

theorem lt_of_mem_chain (hw : w.Complete) (hs : first < w.nextId)
    (h : ShowsCycle (Leads w.delegatesOf) first chain) : ∀ a ∈ chain, a < w.nextId := by
  refine h.steps.induction (· < w.nextId) _ (fun a b hab ha => ?_) fun hne => ?_
  · exact List.mem_range.1 (hw a (List.mem_range.2 ha) b hab)
  · have hh := h.head
    rw [List.head?_eq_some_head hne, Option.some.injEq] at hh
    rwa [hh]

/-! ## Taking in a resolver -/

theorem id_lt_nextId_grown (hr : r.id = w.nextId) : r.id < (w.grown r).nextId := by
  simp [hr, grown, nextId]

theorem takeIn_of_cycle (hw : (w.grown r).Complete) (hr : r.id = w.nextId)
    (h : ReachesCycle (Leads (w.grown r).delegatesOf) r.id) :
    ∃ chain, ShowsCycle (Leads (w.grown r).delegatesOf) r.id chain ∧
      w.takeIn r = .error (.cyclicDelegation (chain.map (w.grown r).describeId)) := by
  have hlt := id_lt_nextId_grown hr
  obtain ⟨chain, hc⟩ := (exists_cycle_iff hw hlt).2 h
  have hshows := showsCycle_of_cycle hw hlt hc
  have hknown : (w.grown r).nextId ∉ chain := fun hm => lt_irrefl _ (lt_of_mem_chain hw hlt hshows _ hm)
  refine ⟨chain, hshows, ?_⟩
  rw [grown] at hc hknown ⊢
  simp only [takeIn, hc, if_neg hknown]

theorem takeIn_of_not_reachesCycle (hw : (w.grown r).Complete) (hr : r.id = w.nextId)
    (h : ¬ ReachesCycle (Leads (w.grown r).delegatesOf) r.id) : w.takeIn r = .ok (w.grown r) := by
  have hc : (w.grown r).cycle? r.id = none := by
    rw [Option.eq_none_iff_forall_ne_some]
    exact fun chain hc => h ((exists_cycle_iff hw (id_lt_nextId_grown hr)).1 ⟨chain, hc⟩)
  rw [grown] at hc ⊢
  simp only [takeIn, hc]

/-! ## Runs that make bound resolvers -/

inductive Call where
  | make (bindings : Bindings) (delegates : List Resolver) (defaultNamespace : Value)
  | addKey (r : Resolver) (key : Key) (h : Handler)
  | addDelegate (r other : Resolver)

def Call.operands : Call → List Resolver
  | .make _ delegates _ => delegates
  | .addKey r .. => [r]
  | .addDelegate r other => [r, other]

def Call.run (w : Workshop) : Call → Result (Workshop × Resolver)
  | .make bindings delegates defaultNamespace => w.make bindings delegates defaultNamespace
  | .addKey r key h => w.addKey r key h
  | .addDelegate r other => w.addDelegate r other

/-- The workshops that such calls, on resolvers that were made before, lead to. -/
inductive Run : Workshop → Prop
  | start : Run .start
  | call {w : Workshop} {c : Call} {made : Workshop × Resolver} :
      Run w → (∀ r ∈ c.operands, r ∈ w.made) → c.run w = .ok made → Run made.1
  | keep {w : Workshop} {r : Resolver} (name : String) : Run w → r ∈ w.made → Run (w.keep name r)

/-- A bound resolver of the given identity, whose delegates have lower ones. -/
def Above (i : Nat) : Resolver → Prop
  | .bound id _ delegates _ => id = i ∧ ∀ d ∈ delegates, d.id < i
  | .foreign .. => False

def Layered (w : Workshop) : Prop := ∀ i r, w.made[i]? = some r → Above i r

theorem start_layered : start.Layered := by
  intro i r h
  match i with
  | 0 =>
    cases h
    exact ⟨rfl, by simp⟩
  | 1 =>
    cases h
    exact ⟨rfl, by simp⟩
  | i + 2 => cases h

theorem Above.id_eq (h : Above i r) : r.id = i := by
  cases r with
  | bound => exact h.1
  | foreign => exact h.elim

theorem Layered.lt_of_leads (hw : w.Layered) (a b : Nat) (h : Leads w.delegatesOf a b) : b < a := by
  rw [Leads, delegatesOf] at h
  split at h
  · next id bindings delegates ns hr =>
    obtain ⟨d, hd, rfl⟩ := List.mem_map.1 h
    exact (hw a _ hr).2 d hd
  · next hr => exact (hw a _ hr).elim
  · cases h

theorem Layered.complete (hw : w.Layered) : w.Complete := by
  intro a ha b hab
  rw [List.mem_range] at ha ⊢
  exact (hw.lt_of_leads a b hab).trans ha

theorem Layered.grown (hw : w.Layered) (hr : Above w.nextId r) : (w.grown r).Layered := by
  intro i s hs
  have hs : (w.made ++ [r])[i]? = some s := hs
  by_cases hi : i < w.made.length
  · rw [List.getElem?_append_left hi] at hs
    exact hw i s hs
  · have hlast : i = w.made.length := by
      have := (List.getElem?_eq_some_iff.1 hs).1
      simp only [List.length_append, List.length_singleton] at this
      omega
    rw [hlast, List.getElem?_concat_length, Option.some.injEq] at hs
    rw [hlast, ← hs]
    exact hr

theorem Layered.takeIn (hw : w.Layered) (hr : Above w.nextId r) : w.takeIn r = .ok (w.grown r) := by
  have hg := hw.grown hr
  exact takeIn_of_not_reachesCycle hg.complete hr.id_eq (not_reachesCycle_of_rank id hg.lt_of_leads _)

/-- A call on resolvers that were made before makes one that stands above them all. -/
theorem Layered.run (hw : w.Layered) {c : Call} (hc : ∀ r ∈ c.operands, r ∈ w.made) :
    ∃ r, Above w.nextId r ∧ c.run w = .ok (w.grown r, r) := by
  have hmade : ∀ s ∈ w.made, ∃ i < w.nextId, Above i s := by
    intro s hs
    obtain ⟨i, hi, rfl⟩ := List.getElem_of_mem hs
    exact ⟨i, hi, hw i _ (List.getElem?_eq_getElem hi)⟩
  have hlt : ∀ s ∈ w.made, s.id < w.nextId := by
    intro s hs
    obtain ⟨i, hi, ha⟩ := hmade s hs
    rwa [ha.id_eq]
  cases c with
  | make bindings delegates ns =>
    have ha : Above w.nextId (.bound w.nextId bindings delegates ns) := ⟨rfl, fun d hd => hlt d (hc d hd)⟩
    exact ⟨_, ha, by rw [Call.run, make, hw.takeIn ha]; rfl⟩
  | addKey s key h =>
    obtain ⟨i, hi, hs⟩ := hmade s (hc s (by simp [Call.operands]))
    cases s with
    | foreign => exact hs.elim
    | bound id bindings delegates ns =>
      have ha : Above w.nextId ((Resolver.bound id bindings delegates ns).withKey w.nextId key h) :=
        ⟨rfl, fun d hd => (hs.2 d hd).trans hi⟩
      exact ⟨_, ha, by rw [Call.run, addKey, hw.takeIn ha]; rfl⟩
  | addDelegate s other =>
    obtain ⟨i, hi, hs⟩ := hmade s (hc s (by simp [Call.operands]))
    have hother := hlt other (hc other (by simp [Call.operands]))
    cases s with
    | foreign => exact hs.elim
    | bound id bindings delegates ns =>
      have ha : Above w.nextId ((Resolver.bound id bindings delegates ns).withDelegate w.nextId other) := by
        refine ⟨rfl, fun d hd => ?_⟩
        rcases List.mem_append.1 hd with hd | hd
        · exact (hs.2 d hd).trans hi
        · rwa [List.mem_singleton.1 hd]
      exact ⟨_, ha, by rw [Call.run, addDelegate, hw.takeIn ha]; rfl⟩

theorem Run.layered (h : Run w) : w.Layered := by
  induction h with
  | start => exact start_layered
  | call _ hc hmade ih =>
    obtain ⟨r, hr, hrun⟩ := ih.run hc
    cases hmade.symm.trans hrun
    exact ih.grown hr
  | keep _ _ _ ih => exact ih

/-- The check for cycles ends, and finds a chain just where a resolver reaches one that reaches itself. A resolver is
refused just for such a chain, and a run that makes bound resolvers only is never refused one. -/
theorem refuses_exactly_cycles (w : Workshop) :
    (w.Complete → ∀ first < w.nextId,
      (∀ out, Walks w.delegatesOf [] [] [first] out ↔
        visit w.delegatesOf (List.range w.made.length) [] [] first = out) ∧
      ((∃ chain, w.cycle? first = some chain) ↔ ReachesCycle (Leads w.delegatesOf) first) ∧
      ∀ chain, w.cycle? first = some chain → ShowsCycle (Leads w.delegatesOf) first chain) ∧
    (∀ r, r.id = w.nextId → (w.grown r).Complete →
      (ReachesCycle (Leads (w.grown r).delegatesOf) r.id →
        ∃ chain, ShowsCycle (Leads (w.grown r).delegatesOf) r.id chain ∧
          w.takeIn r = .error (.cyclicDelegation (chain.map (w.grown r).describeId))) ∧
      (¬ ReachesCycle (Leads (w.grown r).delegatesOf) r.id → w.takeIn r = .ok (w.grown r))) ∧
    (Run w → ∀ c : Call, (∀ r ∈ c.operands, r ∈ w.made) → ∃ r, c.run w = .ok (w.grown r, r)) := by
  refine ⟨fun hw first hs => ⟨fun out => ?_, exists_cycle_iff hw hs, fun chain => showsCycle_of_cycle hw hs⟩, ?_, ?_⟩
  · exact walks_iff_visit List.nodup_range hw (List.mem_range.2 hs)
  · exact fun r hr hw => ⟨takeIn_of_cycle hw hr, takeIn_of_not_reachesCycle hw hr⟩
  · intro hrun c hc
    obtain ⟨r, -, hr⟩ := hrun.layered.run hc
    exact ⟨r, hr⟩

def knot : Workshop :=
  let (w, r) := start.makeForeign "Knot" ["knot"]
  w.keep "knot" r

def aboveKnot : Resolver :=
  .bound 3 [] [.fromContext, .foreign 2 "Knot" (fun _ => none) (.text "field")] (.text "field")

theorem knot_refused :
    (∃ chain, knot.cycle? 2 = some chain) ∧ (∃ shown, knot.takeIn aboveKnot = .error (.cyclicDelegation shown)) ∧
      ∃ r, (Call.addDelegate .fromContext .fromContext).run start = .ok (start.grown r, r) := by
  have hknot : knot.Complete := by
    unfold Complete Closed
    decide
  have hround : ShowsCycle (Leads knot.delegatesOf) 2 [2, 2] := by
    refine ⟨rfl, ?_, [2], 2, rfl, by simp⟩
    unfold Leads
    decide
  have habove : (knot.grown aboveKnot).Complete := by
    unfold Complete Closed
    decide
  have hinto : ShowsCycle (Leads (knot.grown aboveKnot).delegatesOf) 3 [3, 2, 2] := by
    refine ⟨rfl, ?_, [3, 2], 2, rfl, by simp⟩
    unfold Leads
    decide
  refine ⟨?_, ?_, ?_⟩
  · exact ((refuses_exactly_cycles knot).1 hknot 2 (by decide)).2.1.2 hround.reachesCycle
  · obtain ⟨chain, -, h⟩ := ((refuses_exactly_cycles knot).2.1 aboveKnot rfl habove).1 hinto.reachesCycle
    exact ⟨_, h⟩
  · refine (refuses_exactly_cycles start).2.2 .start (.addDelegate .fromContext .fromContext) fun r hr => ?_
    have hr : r = .fromContext := by simpa [Call.operands] using hr
    simp [hr, start]

end Stencil.Workshop
