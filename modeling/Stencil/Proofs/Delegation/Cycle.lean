import Mathlib.Data.List.Chain
import Mathlib.Logic.Relation

namespace Stencil

open Relation

variable {α : Type} {R : α → α → Prop} {a : α} {chain : List α}

/-- Steps lead from a node to a node and from there back to it. -/
def ReachesCycle (R : α → α → Prop) (a : α) : Prop := ∃ x, ReflTransGen R a x ∧ TransGen R x x

theorem not_reachesCycle_of_next (h : ∀ b, R a b → ¬ ReachesCycle R b) : ¬ ReachesCycle R a := by
  rintro ⟨x, hax, hxx⟩
  rcases hax.cases_head with rfl | ⟨b, hab, hbx⟩
  · obtain ⟨b, hab, hba⟩ := TransGen.head'_iff.1 hxx
    exact h b hab ⟨a, hba, hxx⟩
  · exact h b hab ⟨x, hbx, hxx⟩

theorem reachesCycle_iff_next : ReachesCycle R a ↔ ∃ b, R a b ∧ ReachesCycle R b := by
  constructor
  · intro h
    by_contra hnext
    exact not_reachesCycle_of_next (fun b hab hb => hnext ⟨b, hab, hb⟩) h
  · rintro ⟨b, hab, x, hbx, hxx⟩
    exact ⟨x, .head hab hbx, hxx⟩

theorem not_reachesCycle_of_rank (rank : α → Nat) (h : ∀ a b, R a b → rank b < rank a) (a : α) :
    ¬ ReachesCycle R a := by
  rintro ⟨x, -, hxx⟩
  have hlt : ∀ b, TransGen R x b → rank b < rank x := by
    intro b hxb
    induction hxb with
    | single hb => exact h _ _ hb
    | tail _ hb ih => exact (h _ _ hb).trans ih
  exact lt_irrefl _ (hlt x hxx)

section Agreement

variable {S : α → α → Prop} {P : α → Prop}

theorem ReachesCycle.of_agree (hP : ∀ a, P a → ∀ b, R a b → P b) (hRS : ∀ a, P a → ∀ b, R a b → S a b) (ha : P a)
    (h : ReachesCycle R a) : ReachesCycle S a := by
  obtain ⟨x, hax, hxx⟩ := h
  have hreach : ∀ y, ReflTransGen R a y → P y ∧ ReflTransGen S a y := by
    intro y hay
    induction hay with
    | refl => exact ⟨ha, .refl⟩
    | tail _ hbc ih => exact ⟨hP _ ih.1 _ hbc, ih.2.tail (hRS _ ih.1 _ hbc)⟩
  obtain ⟨hx, hax⟩ := hreach x hax
  have hround : ∀ y, TransGen R x y → P y ∧ TransGen S x y := by
    intro y hxy
    induction hxy with
    | single hb => exact ⟨hP x hx _ hb, .single (hRS x hx _ hb)⟩
    | tail _ hbc ih => exact ⟨hP _ ih.1 _ hbc, ih.2.tail (hRS _ ih.1 _ hbc)⟩
  exact ⟨x, hax, (hround x hxx).2⟩

theorem reachesCycle_congr (hP : ∀ a, P a → ∀ b, R a b → P b) (hRS : ∀ a, P a → ∀ b, R a b ↔ S a b) (ha : P a) :
    ReachesCycle R a ↔ ReachesCycle S a := by
  refine ⟨.of_agree hP (fun a ha b => (hRS a ha b).1) ha, .of_agree ?_ (fun a ha b => (hRS a ha b).2) ha⟩
  exact fun a ha b hb => hP a ha b ((hRS a ha b).2 hb)

end Agreement

structure ShowsCycle (R : α → α → Prop) (a : α) (chain : List α) : Prop where
  head : chain.head? = some a
  steps : chain.IsChain R
  returns : ∃ front last, chain = front ++ [last] ∧ last ∈ front

theorem ShowsCycle.reachesCycle (h : ShowsCycle R a chain) : ReachesCycle R a := by
  obtain ⟨hh, hc, front, last, rfl, hm⟩ := h
  refine ⟨last, ?_, ?_⟩
  · refine hc.induction (ReflTransGen R a) _ (fun _ _ hd hr => hr.tail hd) ?_ last (by simp)
    intro hne
    rw [List.head?_eq_some_head hne] at hh
    rw [Option.some.inj hh]
  · obtain ⟨before, between, rfl⟩ := List.append_of_mem hm
    have hround : (last :: (between ++ [last])).IsChain R := hc.suffix ⟨before, by simp⟩
    have hin : last ∈ between ++ [last] := by simp
    cases hb : between ++ [last] with
    | nil => simp [hb] at hin
    | cons next rest =>
      rw [hb] at hround hin
      rw [List.isChain_cons_cons] at hround
      exact .head' hround.1 (hround.2.induction (ReflTransGen R next) _ (fun _ _ hd hr => hr.tail hd)
        (fun _ => .refl) last hin)

end Stencil
