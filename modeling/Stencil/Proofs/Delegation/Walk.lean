import Mathlib.Data.List.Nodup
import Stencil.Keys.Delegation
import Stencil.Proofs.Delegation.Cycle

/-!
The walk over a delegation graph as a relation that knows no bound. A derivation is a finite walk. Main statements: in a
finite graph every walk has one, and it stops exactly where a cycle is reached.
-/

namespace Stencil.Delegation

variable {α : Type} {next : α → List α} {start : α} {graph fresh path done nodes chain : List α}
  {out : Except (List α) (List α)}

/-- How some nodes are walked in turn, on a path and past the nodes that are done: to the nodes done by then, or to a
chain that comes back to its own path. -/
inductive Walks (next : α → List α) : List α → List α → List α → Except (List α) (List α) → Prop
  | nil {path done : List α} : Walks next path done [] (.ok done)
  | known {path done rest : List α} {node : α} {out : Except (List α) (List α)} :
      node ∈ done → Walks next path done rest out → Walks next path done (node :: rest) out
  | returns {path done rest : List α} {node : α} :
      node ∉ done → node ∈ path → Walks next path done (node :: rest) (.error (path ++ [node]))
  | fails {path done rest chain : List α} {node : α} :
      node ∉ done → node ∉ path → Walks next (path ++ [node]) done (next node) (.error chain) →
      Walks next path done (node :: rest) (.error chain)
  | passes {path done between rest : List α} {node : α} {out : Except (List α) (List α)} :
      node ∉ done → node ∉ path → Walks next (path ++ [node]) done (next node) (.ok between) →
      Walks next path (node :: between) rest out → Walks next path done (node :: rest) out

def Leads (next : α → List α) (a b : α) : Prop := b ∈ next a

def Closed (next : α → List α) (graph : List α) : Prop := ∀ a ∈ graph, ∀ b ∈ next a, b ∈ graph

/-- The nodes of the graph are fresh or on the path, none both, none twice fresh. -/
structure Parts (graph fresh path : List α) : Prop where
  nodup : fresh.Nodup
  mem_iff : ∀ a ∈ graph, a ∈ fresh ↔ a ∉ path

section Bounded

variable [DecidableEq α]

theorem Parts.erase (h : Parts graph fresh path) (node : α) : Parts graph (fresh.erase node) (path ++ [node]) := by
  refine ⟨h.nodup.erase node, fun a ha => ?_⟩
  rw [h.nodup.mem_erase_iff, h.mem_iff a ha]
  simp [and_comm]

/-! ## One step of a walk -/

theorem visitAll_of_known {node : α} {rest : List α} (hd : node ∈ done) :
    visitAll next fresh path done (node :: rest) = visitAll next fresh path done rest := by
  rw [visitAll, visit, if_pos hd]

theorem visitAll_of_returns {node : α} {rest : List α} (hd : node ∉ done) (hf : node ∉ fresh) :
    visitAll next fresh path done (node :: rest) = .error (path ++ [node]) := by
  rw [visitAll, visit, if_neg hd, dif_neg hf]

theorem visitAll_of_fresh {node : α} {rest : List α} (hd : node ∉ done) (hf : node ∈ fresh) :
    visitAll next fresh path done (node :: rest) =
      match visitAll next (fresh.erase node) (path ++ [node]) done (next node) with
      | .ok between => visitAll next fresh path (node :: between) rest
      | .error chain => .error chain := by
  rw [visitAll, visit, if_neg hd, dif_pos hf]
  cases visitAll next (fresh.erase node) (path ++ [node]) done (next node) <;> rfl

/-! ## Walking ends -/

theorem walks_visitAll (hc : Closed next graph) (hp : Parts graph fresh path) (hn : ∀ a ∈ nodes, a ∈ graph) :
    Walks next path done nodes (visitAll next fresh path done nodes) := by
  -- The way down uses up fresh nodes, the way along the nodes that are still to be visited.
  induction hk : fresh.length using Nat.strong_induction_on generalizing fresh path done nodes with
  | _ k deeper =>
    subst hk
    induction nodes generalizing done with
    | nil =>
      rw [visitAll]
      exact .nil
    | cons node rest ih =>
      obtain ⟨hnode, hrest⟩ := List.forall_mem_cons.1 hn
      by_cases hd : node ∈ done
      · rw [visitAll_of_known hd]
        exact .known hd (ih hrest)
      by_cases hf : node ∈ fresh
      · have hon : node ∉ path := (hp.mem_iff node hnode).1 hf
        have hlt : (fresh.erase node).length < fresh.length := by
          have := List.length_erase_of_mem hf
          have := List.length_pos_of_mem hf
          omega
        have hnext : Walks next (path ++ [node]) done (next node) _ :=
          deeper _ hlt (hp.erase node) (hc node hnode) rfl
        rw [visitAll_of_fresh hd hf]
        cases hv : visitAll next (fresh.erase node) (path ++ [node]) done (next node) with
        | error chain =>
          rw [hv] at hnext
          exact .fails hd hon hnext
        | ok between =>
          rw [hv] at hnext
          exact .passes hd hon hnext (ih hrest)
      · have hon : node ∈ path := by
          by_contra hon
          exact hf ((hp.mem_iff node hnode).2 hon)
        rw [visitAll_of_returns hd hf]
        exact .returns hd hon

theorem Walks.visitAll_eq (h : Walks next path done nodes out) (hc : Closed next graph) (hp : Parts graph fresh path)
    (hn : ∀ a ∈ nodes, a ∈ graph) : visitAll next fresh path done nodes = out := by
  induction h generalizing fresh with
  | nil => rw [visitAll]
  | known hd _ ih =>
    rw [visitAll_of_known hd]
    exact ih hp (List.forall_mem_cons.1 hn).2
  | returns hd hon =>
    have hf := mt (hp.mem_iff _ (List.forall_mem_cons.1 hn).1).1 (not_not_intro hon)
    exact visitAll_of_returns hd hf
  | fails hd hon _ ih =>
    have hnode := (List.forall_mem_cons.1 hn).1
    rw [visitAll_of_fresh hd ((hp.mem_iff _ hnode).2 hon), ih (hp.erase _) (hc _ hnode)]
  | passes hd hon _ _ ih ihr =>
    have hnode := (List.forall_mem_cons.1 hn).1
    rw [visitAll_of_fresh hd ((hp.mem_iff _ hnode).2 hon), ih (hp.erase _) (hc _ hnode)]
    exact ihr hp (List.forall_mem_cons.1 hn).2

theorem visitAll_singleton : visitAll next fresh path done [start] = visit next fresh path done start := by
  rw [visitAll]
  cases visit next fresh path done start with
  | ok after =>
    dsimp only
    rw [visitAll]
  | error chain => rfl

/-- In a finite graph a walk from a node ends, in one way, which is what the bounded walk answers. -/
theorem walks_iff_visit (hg : graph.Nodup) (hc : Closed next graph) (hs : start ∈ graph) :
    Walks next [] [] [start] out ↔ visit next graph [] [] start = out := by
  have hp : Parts graph graph [] := ⟨hg, fun a ha => by simp [ha]⟩
  have hn : ∀ a ∈ [start], a ∈ graph := by simpa using hs
  rw [← visitAll_singleton]
  constructor
  · exact fun h => h.visitAll_eq hc hp hn
  · rintro rfl
    exact walks_visitAll hc hp hn

end Bounded

/-! ## A walk stops at a cycle -/

theorem Walks.showsCycle (h : Walks next path done nodes out) (ho : out = .error chain)
    (hp : ∀ a ∈ nodes, (path ++ [a]).IsChain (Leads next)) :
    chain.IsChain (Leads next) ∧ (∃ front last, chain = front ++ [last] ∧ last ∈ front) ∧
      ∃ a ∈ nodes, path ++ [a] <+: chain := by
  induction h with
  | nil => cases ho
  | known _ _ ih =>
    obtain ⟨hc, hr, a, ha, hpre⟩ := ih ho (List.forall_mem_cons.1 hp).2
    exact ⟨hc, hr, a, List.mem_cons_of_mem _ ha, hpre⟩
  | @returns path done rest node hd hon =>
    cases ho
    exact ⟨hp node List.mem_cons_self, ⟨path, node, rfl, hon⟩, node, List.mem_cons_self, List.prefix_rfl⟩
  | @fails path done rest _ node hd hon _ ih =>
    have hway := hp node List.mem_cons_self
    have hnext : ∀ b ∈ next node, (path ++ [node] ++ [b]).IsChain (Leads next) := by
      intro b hb
      rw [List.isChain_append]
      refine ⟨hway, .singleton _, fun x hx y hy => ?_⟩
      rw [List.getLast?_concat, Option.mem_some_iff] at hx
      rw [List.head?_cons, Option.mem_some_iff] at hy
      subst hx hy
      exact hb
    obtain ⟨hc, hr, b, -, hpre⟩ := ih ho hnext
    exact ⟨hc, hr, node, List.mem_cons_self, (List.prefix_append _ _).trans hpre⟩
  | passes _ _ _ _ _ ihr =>
    obtain ⟨hc, hr, a, ha, hpre⟩ := ihr ho (List.forall_mem_cons.1 hp).2
    exact ⟨hc, hr, a, List.mem_cons_of_mem _ ha, hpre⟩

theorem Walks.showsCycle_of_start (h : Walks next [] [] [start] (.error chain)) :
    ShowsCycle (Leads next) start chain := by
  obtain ⟨hc, hr, a, ha, rest, rfl⟩ := h.showsCycle rfl fun a _ => .singleton _
  obtain rfl := List.mem_singleton.1 ha
  exact ⟨rfl, hc, hr⟩

/-! ## A walk that ends passes no cycle -/

theorem Walks.not_reachesCycle {after : List α} (h : Walks next path done nodes out) (ho : out = .ok after)
    (hd : ∀ a ∈ done, ¬ ReachesCycle (Leads next) a) :
    (∀ a ∈ after, ¬ ReachesCycle (Leads next) a) ∧ ∀ a ∈ nodes, ¬ ReachesCycle (Leads next) a := by
  induction h generalizing after with
  | nil =>
    cases ho
    exact ⟨hd, by simp⟩
  | known hknown _ ih =>
    obtain ⟨hafter, hrest⟩ := ih ho hd
    exact ⟨hafter, List.forall_mem_cons.2 ⟨hd _ hknown, hrest⟩⟩
  | returns => cases ho
  | fails => cases ho
  | @passes path done between rest node out _ _ _ _ ih ihr =>
    obtain ⟨hbetween, hnext⟩ := ih rfl hd
    have hnode : ¬ ReachesCycle (Leads next) node := not_reachesCycle_of_next hnext
    obtain ⟨hafter, hrest⟩ := ihr ho (List.forall_mem_cons.2 ⟨hnode, hbetween⟩)
    exact ⟨hafter, List.forall_mem_cons.2 ⟨hnode, hrest⟩⟩

section Bounded

variable [DecidableEq α]

theorem cycle_eq_some_iff : cycle? next graph start = some chain ↔ visit next graph [] [] start = .error chain := by
  rw [cycle?]
  cases visit next graph [] [] start <;> simp

theorem showsCycle_of_cycle (hg : graph.Nodup) (hc : Closed next graph) (hs : start ∈ graph)
    (h : cycle? next graph start = some chain) : ShowsCycle (Leads next) start chain :=
  ((walks_iff_visit hg hc hs).2 (cycle_eq_some_iff.1 h)).showsCycle_of_start

theorem exists_cycle_iff_reachesCycle (hg : graph.Nodup) (hc : Closed next graph) (hs : start ∈ graph) :
    (∃ chain, cycle? next graph start = some chain) ↔ ReachesCycle (Leads next) start := by
  constructor
  · rintro ⟨chain, h⟩
    exact (showsCycle_of_cycle hg hc hs h).reachesCycle
  · intro hr
    cases hv : visit next graph [] [] start with
    | error chain => exact ⟨chain, cycle_eq_some_iff.2 hv⟩
    | ok after =>
      have hw : Walks next [] [] [start] (.ok after) := (walks_iff_visit hg hc hs).2 hv
      exact absurd hr ((hw.not_reachesCycle rfl (by simp)).2 start (by simp))

end Bounded

end Stencil.Delegation
