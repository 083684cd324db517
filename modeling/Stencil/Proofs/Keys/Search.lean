import Stencil.Proofs.Keys.History

/-!
The order in which resolvers are searched. Main statement: a resolver finds what the first resolver binds, among itself
and those that it delegates to, taken depth first and each one once.
-/

namespace Stencil.Resolver

open Relation

variable {r s : Resolver} {key : Key}

mutual

/-- A resolver and all that it delegates to, depth first. One that is shared comes as often as it is met. -/
def preorder : Resolver → List Resolver
  | .bound id bindings delegates ns => .bound id bindings delegates ns :: preorderAll delegates
  | .foreign id label find ns => [.foreign id label find ns]

def preorderAll : List Resolver → List Resolver
  | [] => []
  | r :: rs => preorder r ++ preorderAll rs

end

/-- Each resolver at its first place in the preorder only. -/
def searchOrder (r : Resolver) : List Resolver := r.preorder.eraseDupsBy fun s t => s.id == t.id

/-- What a resolver binds itself: the handler of the key, else that of the wildcard of its namespace. -/
def own? (r : Resolver) (key : Key) : Option Handler := (r.bindings.lookup key).or (r.bindings.lookup key.wildcard)

theorem local_eq_own (r : Resolver) (key : Key) : r.bindings.local? key = r.own? key := by
  rw [Bindings.local?, own?]
  cases r.bindings.lookup key <;> rfl

theorem preorderAll_eq_flatMap (rs : List Resolver) : preorderAll rs = rs.flatMap preorder := by
  induction rs with
  | nil => rfl
  | cons r rs ih => rw [preorderAll, ih, List.flatMap_cons]

theorem preorder_eq (r : Resolver) : r.preorder = r :: r.delegates.flatMap preorder := by
  cases r with
  | bound => rw [preorder, preorderAll_eq_flatMap, delegates]
  | foreign => rfl

mutual

theorem reaches_of_mem_preorder : ∀ r : Resolver, s ∈ r.preorder → r.Reaches s
  | .bound id bindings delegates ns, h => by
    rw [preorder, List.mem_cons] at h
    rcases h with rfl | h
    · exact .refl
    · obtain ⟨d, hd, hs⟩ := exists_reaches_of_mem_preorderAll delegates h
      exact .head hd hs
  | .foreign .., h => by
    rw [preorder, List.mem_singleton] at h
    rw [h]
    exact .refl

theorem exists_reaches_of_mem_preorderAll : ∀ rs : List Resolver, s ∈ preorderAll rs → ∃ r ∈ rs, r.Reaches s
  | [], h => by cases h
  | r :: rs, h => by
    rw [preorderAll, List.mem_append] at h
    rcases h with h | h
    · exact ⟨r, List.mem_cons_self, reaches_of_mem_preorder r h⟩
    · obtain ⟨t, ht, hs⟩ := exists_reaches_of_mem_preorderAll rs h
      exact ⟨t, List.mem_cons_of_mem _ ht, hs⟩

end

theorem mem_preorder_iff : s ∈ r.preorder ↔ r.Reaches s := by
  refine ⟨reaches_of_mem_preorder r, fun h => ?_⟩
  induction h using ReflTransGen.head_induction_on with
  | refl =>
    rw [preorder_eq]
    exact List.mem_cons_self
  | head hd _ ih =>
    rw [preorder_eq]
    exact List.mem_cons_of_mem _ (List.mem_flatMap.2 ⟨_, hd, ih⟩)

mutual

theorem resolve_eq_findSome : ∀ r : Resolver, (∀ s ∈ r.preorder, s.isBound) →
    r.resolve key = r.preorder.findSome? (·.own? key)
  | .bound id bindings delegates ns, h => by
    rw [preorder, List.forall_mem_cons] at h
    have hown : bindings.local? key = (bound id bindings delegates ns).own? key :=
      local_eq_own (.bound id bindings delegates ns) key
    rw [resolve_bound, resolveFirst_eq_findSome delegates h.2, preorder, List.findSome?_cons, hown]
    cases (bound id bindings delegates ns).own? key <;> rfl
  | .foreign .., h => by
    rw [preorder, List.forall_mem_singleton] at h
    cases h

theorem resolveFirst_eq_findSome : ∀ rs : List Resolver, (∀ s ∈ preorderAll rs, s.isBound) →
    resolveFirst rs key = (preorderAll rs).findSome? (·.own? key)
  | [], _ => by rw [resolveFirst, preorderAll, List.findSome?_nil]
  | r :: rs, h => by
    rw [preorderAll, List.forall_mem_append] at h
    rw [resolveFirst_cons, resolve_eq_findSome r h.1, resolveFirst_eq_findSome rs h.2, preorderAll,
      List.findSome?_append]

end

section FirstOccurrences

variable {α β : Type} {f : α → Option β} {same : α → α → Bool} {xs : List α}

theorem findSome_filter_of_eq_none {p : α → Bool} (h : ∀ x ∈ xs, p x = false → f x = none) :
    (xs.filter p).findSome? f = xs.findSome? f := by
  induction xs with
  | nil => rfl
  | cons x xs ih =>
    rw [List.forall_mem_cons] at h
    rw [List.filter_cons, List.findSome?_cons, ← ih h.2]
    split
    · rw [List.findSome?_cons]
    · next hp => rw [h.1 (by simpa using hp)]

/-- A later occurrence of an element finds nothing that the first one does not. -/
theorem findSome_eraseDupsBy (h : ∀ x ∈ xs, ∀ y ∈ xs, same y x → f y = f x) :
    (xs.eraseDupsBy same).findSome? f = xs.findSome? f := by
  induction hk : xs.length using Nat.strongRecOn generalizing xs with
  | ind k shorter =>
    cases xs with
    | nil => rfl
    | cons x xs =>
      rw [List.eraseDupsBy_cons, List.findSome?_cons, List.findSome?_cons]
      cases hx : f x with
      | some b => rfl
      | none =>
        -- What is erased is the same as an element that finds nothing.
        have hlt : (xs.filter fun y => decide (same y x = false)).length < k := by
          rw [← hk, List.length_cons, Nat.lt_succ_iff]
          exact List.length_filter_le ..
        have hrest := shorter _ hlt (fun y hy z hz => h y (List.mem_cons_of_mem _ (List.mem_filter.1 hy).1) z
          (List.mem_cons_of_mem _ (List.mem_filter.1 hz).1)) rfl
        refine hrest.trans (findSome_filter_of_eq_none fun y hy hp => ?_)
        have hsame : same y x = true := by simpa using hp
        rw [h x List.mem_cons_self y (List.mem_cons_of_mem _ hy) hsame, hx]

end FirstOccurrences

/-- Where all resolvers are bound ones, what is found is what the first one binds in the order of the search, whether or
not it passes again over those that it met before; and nothing is found exactly where none of them binds. -/
theorem resolve_first_match (hbound : ∀ s, r.Reaches s → s.isBound) (hr : r.Identified) (key : Key) :
    r.resolve key = r.preorder.findSome? (·.own? key) ∧
      r.resolve key = r.searchOrder.findSome? (·.own? key) ∧
      (r.resolve key = none ↔ ∀ s ∈ r.preorder, s.own? key = none) := by
  have hall : r.resolve key = r.preorder.findSome? (·.own? key) :=
    resolve_eq_findSome r fun s hs => hbound s (mem_preorder_iff.1 hs)
  have honce : r.searchOrder.findSome? (·.own? key) = r.preorder.findSome? (·.own? key) := by
    refine findSome_eraseDupsBy fun s hs t ht hsame => ?_
    rw [hr t s (mem_preorder_iff.1 ht) (mem_preorder_iff.1 hs) (beq_iff_eq.1 hsame)]
  exact ⟨hall, hall.trans honce.symm, by rw [hall, List.findSome?_eq_none_iff]⟩

def wildcardOverNumbers : Resolver :=
  .bound 2 [(.ofText "Math" "*", .path)] [.numbers] (.text Key.defaultNamespace)

/-- The numbers are met twice. -/
def sharing : Resolver := .bound 3 [] [wildcardOverNumbers, .numbers] (.text Key.defaultNamespace)

theorem resolve_first_match_sharing :
    sharing.preorder.map id = [3, 2, 0, 0] ∧ sharing.searchOrder.map id = [3, 2, 0] ∧
      sharing.resolve (.ofText "Math" "PI") = some .path ∧
      sharing.searchOrder.findSome? (·.own? (.ofText "Math" "PI")) = some .path := by
  have hplaced : ((Workshop.start.grown wildcardOverNumbers).grown sharing).Placed := by
    refine (Workshop.start_placed.grown rfl ?_).grown rfl ?_
    · simp [wildcardOverNumbers, delegates, Workshop.start]
    · simp [sharing, delegates, Workshop.grown, Workshop.start]
  have hids : sharing.Identified := hplaced.identified (List.mem_append_right _ (List.mem_singleton_self _))
  have hbound : ∀ s, sharing.Reaches s → s.isBound := by
    have hall : sharing.preorder.all isBound := rfl
    exact fun s hs => List.all_eq_true.1 hall s (mem_preorder_iff.2 hs)
  obtain ⟨-, honce, -⟩ := resolve_first_match hbound hids (.ofText "Math" "PI")
  have hfound : sharing.resolve (.ofText "Math" "PI") = some .path := rfl
  exact ⟨rfl, rfl, hfound, honce.symm.trans hfound⟩

end Stencil.Resolver
