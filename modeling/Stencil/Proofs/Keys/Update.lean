import Stencil.Proofs.Association
import Stencil.Proofs.Keys.History

/-!
What resolvers find that are copies with one more binding or one more delegate. Main statement: the new binding counts
for its own key and for the keys of its namespace that have none, the new delegate for the keys that found nothing; and a
copy is refused only where delegation reaches a cycle.
-/

namespace Stencil

open Relation Outcome Delegation

/-- A new binding counts for its own key, and as a wildcard for the keys that have no binding of their own. -/
theorem Bindings.local_put (bindings : Bindings) (key : Key) (h : Handler) (k : Key) :
    local? (Assoc.put key h bindings) k =
      if k = key ∨ key = k.wildcard ∧ bindings.lookup k = none then some h else bindings.local? k := by
  rw [local?, local?, Assoc.lookup_put, Assoc.lookup_put]
  by_cases hk : k = key
  · simp [hk]
  · cases hown : bindings.lookup k with
    | some own => simp [hk]
    | none =>
      by_cases hwild : key = k.wildcard
      · subst hwild
        simp [hk]
      · simp [hk, hwild, Ne.symm hwild]

namespace Resolver

variable {r : Resolver}

theorem resolve_withKey (hr : r.isBound) (newId : Nat) (key : Key) (h : Handler) (k : Key) :
    (r.withKey newId key h).resolve k =
      if k = key ∨ key = k.wildcard ∧ r.bindings.lookup k = none then some h else r.resolve k := by
  cases r with
  | foreign => cases hr
  | bound id own delegates ns =>
    rw [withKey, resolve_bound, resolve_bound, Bindings.local_put, bindings, Resolver.delegates]
    split <;> rfl

end Resolver

namespace Workshop

variable {w after : Workshop} {r s other : Resolver} {i : Nat}

/-! ## What a copy finds -/

theorem resolve_of_addKey {key : Key} {h : Handler} (hmade : w.addKey r key h = .ok (after, s)) (k : Key) :
    s.resolve k = if k = key ∨ key = k.wildcard ∧ r.bindings.lookup k = none then some h else r.resolve k := by
  obtain ⟨hr, hmade⟩ := eq_of_addKey hmade
  rw [(Prod.mk.inj hmade).2, Resolver.resolve_withKey hr]

theorem resolve_of_addDelegate (h : w.addDelegate r other = .ok (after, s)) (key : Key) :
    s.resolve key = (r.resolve key).or (other.resolve key) := by
  obtain ⟨hr, hmade⟩ := eq_of_addDelegate h
  rw [(Prod.mk.inj hmade).2]
  cases r with
  | foreign => cases hr
  | bound id bindings delegates ns => exact Resolver.resolve_withDelegate id _ bindings delegates ns other key

theorem defaultNamespace_of_addDelegate (h : w.addDelegate r other = .ok (after, s)) :
    s.defaultNamespace = r.defaultNamespace := by
  rw [(Prod.mk.inj (eq_of_addDelegate h).2).2]
  rfl

theorem resolve_of_addDelegate_twice {w₁ w₂ w₃ w₄ w₅ w₆ w₇ : Workshop} {first second one two pair both : Resolver}
    {ns : Value} (hone : w.addDelegate r first = .ok (w₁, one)) (htwo : w₂.addDelegate one second = .ok (w₃, two))
    (hpair : w₄.make [] [first, second] ns = .ok (w₅, pair)) (hboth : w₆.addDelegate r pair = .ok (w₇, both))
    (key : Key) : two.resolve key = both.resolve key := by
  have hfound : pair.resolve key = (first.resolve key).or (second.resolve key) := by
    rw [(Prod.mk.inj (eq_of_make hpair)).2, Resolver.resolve_bound, Resolver.resolveFirst_cons,
      Resolver.resolveFirst_cons, Resolver.resolveFirst, Option.or_none]
    rfl
  rw [resolve_of_addDelegate htwo, resolve_of_addDelegate hone, resolve_of_addDelegate hboth, hfound, Option.or_assoc]

structure Keeps (w after : Workshop) : Prop where
  made : w.made <+: after.made
  names : after.names = w.names
  references : after.references = w.references

theorem keeps_grown (w : Workshop) (r : Resolver) : w.Keeps (w.grown r) := ⟨List.prefix_append _ _, rfl, rfl⟩

/-! ## Cycles in a workshop that takes in one more -/

/-- Delegation leads from the resolver to one from which it leads back to that one. -/
def Loops (w : Workshop) (r : Resolver) : Prop := ReachesCycle (Leads w.delegatesOf) r.id

theorem above_iff : Above i r ↔ r.isBound ∧ r.id = i ∧ ∀ d ∈ r.delegates, d.id < i := by
  cases r with
  | bound => exact ⟨fun h => ⟨rfl, h⟩, And.right⟩
  | foreign => exact ⟨False.elim, fun h => nomatch h.1⟩

theorem Placed.id_lt (hw : w.Placed) (hr : r ∈ w.made) : r.id < w.nextId :=
  (List.getElem?_eq_some_iff.1 (hw.getElem_id r hr)).1

theorem delegatesOf_of_isBound (h : w.made[i]? = some r) (hr : r.isBound) :
    w.delegatesOf i = r.delegates.map Resolver.id := by
  cases r with
  | foreign => cases hr
  | bound => simp only [delegatesOf, h, Resolver.delegates]

theorem loops_iff_delegates (h : w.made[r.id]? = some r) (hr : r.isBound) :
    w.Loops r ↔ ∃ d ∈ r.delegates, w.Loops d := by
  rw [Loops, reachesCycle_iff_next]
  simp only [Leads, delegatesOf_of_isBound h hr, List.mem_map, exists_exists_and_eq_and]
  rfl

theorem idOf_grown {name : String} (h : w.idOf name < w.nextId) : (w.grown s).idOf name = w.idOf name := by
  have hfind : (w.grown s).find? name = w.find? name := rfl
  rw [idOf] at h ⊢
  rw [idOf, hfind]
  cases hr : w.find? name with
  | some r => rfl
  | none =>
    rw [hr] at h
    exact absurd h (lt_irrefl _)

theorem Complete.delegatesOf_grown (hw : w.Complete) (hi : i < w.nextId) :
    (w.grown s).delegatesOf i = w.delegatesOf i := by
  have hplace : (w.grown s).made[i]? = w.made[i]? := List.getElem?_append_left hi
  have hlt : ∀ b ∈ w.delegatesOf i, b < w.nextId := fun b hb => List.mem_range.1 (hw i (List.mem_range.2 hi) b hb)
  rw [delegatesOf] at hlt ⊢
  rw [delegatesOf, hplace]
  cases hr : w.made[i]? with
  | none => rfl
  | some r =>
    cases r with
    | bound => rfl
    | foreign =>
      -- Only a name without meaning would be read otherwise now, and no resolver delegates to one.
      rw [hr] at hlt
      exact List.map_congr_left fun name hname => idOf_grown (hlt _ (List.mem_map_of_mem hname))

theorem getElem_grown (hs : s.id = w.nextId) : (w.grown s).made[s.id]? = some s := by
  rw [hs]
  exact List.getElem?_concat_length

theorem Complete.grown (hw : w.Complete) (hs : Above w.nextId s) : (w.grown s).Complete := by
  obtain ⟨hbound, hid, hlower⟩ := above_iff.1 hs
  have hlen : (w.grown s).made.length = w.nextId + 1 := List.length_append
  intro a ha b hb
  rw [List.mem_range, hlen] at ha ⊢
  rcases Nat.lt_succ_iff_lt_or_eq.1 ha with ha | rfl
  · rw [hw.delegatesOf_grown ha] at hb
    exact Nat.lt_succ_of_lt (List.mem_range.1 (hw a (List.mem_range.2 ha) b hb))
  · rw [← hid, delegatesOf_of_isBound (getElem_grown hid) hbound] at hb
    obtain ⟨d, hd, rfl⟩ := List.mem_map.1 hb
    exact Nat.lt_succ_of_lt (hlower d hd)

theorem Complete.loops_grown (hw : w.Complete) (hr : r.id < w.nextId) : (w.grown s).Loops r ↔ w.Loops r := by
  refine (reachesCycle_congr (P := (· < w.nextId)) (fun a ha b hb => ?_) (fun a ha b => ?_) hr).symm
  · exact List.mem_range.1 (hw a (List.mem_range.2 ha) b hb)
  · rw [Leads, Leads, hw.delegatesOf_grown ha]

theorem Complete.loops_new (hw : w.Complete) (hs : Above w.nextId s) :
    (w.grown s).Loops s ↔ ∃ d ∈ s.delegates, w.Loops d := by
  obtain ⟨hbound, hid, hlower⟩ := above_iff.1 hs
  rw [loops_iff_delegates (getElem_grown hid) hbound]
  exact exists_congr fun d => and_congr_right fun hd => hw.loops_grown (hlower d hd)

/-! ## Which calls are accepted -/

/-- The call is refused where delegation loops, and accepted otherwise. -/
def AcceptedUnless (loops : Prop) (answer : Result (Workshop × Resolver)) : Prop :=
  (loops → ∃ shown, answer = .error (.cyclicDelegation shown)) ∧ (¬ loops → ∃ made, answer = .ok made)

theorem Complete.takeIn_accepted (hw : w.Complete) (hs : Above w.nextId s) :
    AcceptedUnless (∃ d ∈ s.delegates, w.Loops d) (do return (← w.takeIn s, s)) := by
  have hid := (above_iff.1 hs).2.1
  have hg := hw.grown hs
  rw [← hw.loops_new hs]
  refine ⟨fun hloops => ?_, fun hloops => ?_⟩
  · obtain ⟨chain, -, htaken⟩ := takeIn_of_cycle hg hid hloops
    exact ⟨_, by rw [htaken]; rfl⟩
  · exact ⟨_, by rw [takeIn_of_not_reachesCycle hg hid hloops]; rfl⟩

/-- Every resolver is in the place of its identity, and every name that one delegates to has a meaning. -/
structure Sound (w : Workshop) : Prop where
  placed : w.Placed
  complete : w.Complete

section Sound

variable (hw : w.Sound)
include hw

theorem Sound.make_accepted {delegates : List Resolver} (hd : ∀ d ∈ delegates, d ∈ w.made) (bindings : Bindings)
    (ns : Value) : AcceptedUnless (∃ d ∈ delegates, w.Loops d) (w.make bindings delegates ns) := by
  have habove : Above w.nextId (.bound w.nextId bindings delegates ns) := ⟨rfl, fun d h => hw.placed.id_lt (hd d h)⟩
  exact hw.complete.takeIn_accepted habove

theorem Sound.lower (hr : r ∈ w.made) : ∀ d ∈ r.delegates, d.id < w.nextId :=
  fun d hd => hw.placed.id_lt (hw.placed.delegates_made r hr d hd)

theorem Sound.addKey_accepted (hr : r ∈ w.made) (hb : r.isBound) (key : Key) (h : Handler) :
    AcceptedUnless (w.Loops r) (w.addKey r key h) := by
  rw [loops_iff_delegates (hw.placed.getElem_id r hr) hb]
  have habove : Above w.nextId (r.withKey w.nextId key h) := ⟨rfl, hw.lower hr⟩
  cases r with
  | foreign => cases hb
  | bound => exact hw.complete.takeIn_accepted habove

theorem Sound.addDelegate_accepted (hr : r ∈ w.made) (hb : r.isBound) (ho : other ∈ w.made) :
    AcceptedUnless (w.Loops r ∨ w.Loops other) (w.addDelegate r other) := by
  have habove : Above w.nextId (r.withDelegate w.nextId other) := by
    refine ⟨rfl, fun d hd => ?_⟩
    rcases List.mem_append.1 hd with hd | hd
    · exact hw.lower hr d hd
    · rw [List.mem_singleton.1 hd]
      exact hw.placed.id_lt ho
  have hloops : (w.Loops r ∨ w.Loops other) ↔ ∃ d ∈ (r.withDelegate w.nextId other).delegates, w.Loops d := by
    rw [loops_iff_delegates (hw.placed.getElem_id r hr) hb]
    simp [Resolver.withDelegate, Resolver.delegates, or_and_right, exists_or]
  rw [hloops]
  cases r with
  | foreign => cases hb
  | bound => exact hw.complete.takeIn_accepted habove

end Sound

/-! ## One call after the other -/

structure Free (w : Workshop) (r : Resolver) : Prop where
  mem : r ∈ w.made
  not_loops : ¬ w.Loops r

theorem Sound.grown (hw : w.Sound) (hs : s.isBound) (hid : s.id = w.nextId) (hd : ∀ d ∈ s.delegates, w.Free d) :
    (w.grown s).Sound ∧ (w.grown s).Free s ∧ ∀ t, w.Free t → (w.grown s).Free t := by
  have habove : Above w.nextId s := above_iff.2 ⟨hs, hid, fun d h => hw.placed.id_lt (hd d h).mem⟩
  refine ⟨⟨hw.placed.grown hid fun d h => (hd d h).mem, hw.complete.grown habove⟩, ⟨?_, ?_⟩, fun t ht => ⟨?_, ?_⟩⟩
  · exact List.mem_append_right _ (List.mem_singleton_self s)
  · rw [hw.complete.loops_new habove]
    exact fun ⟨d, h, hloops⟩ => (hd d h).not_loops hloops
  · exact List.mem_append_left _ ht.mem
  · rw [hw.complete.loops_grown (hw.placed.id_lt ht.mem)]
    exact ht.not_loops

theorem Sound.make_of_free (hw : w.Sound) {delegates : List Resolver} (hd : ∀ d ∈ delegates, w.Free d)
    (bindings : Bindings) (ns : Value) :
    ∃ s, w.make bindings delegates ns = .ok (w.grown s, s) ∧ (w.grown s).Sound ∧ (w.grown s).Free s ∧
      ∀ t, w.Free t → (w.grown s).Free t := by
  have haccepted := hw.make_accepted (fun d h => (hd d h).mem) bindings ns
  obtain ⟨made, hmade⟩ := haccepted.2 fun ⟨d, h, hloops⟩ => (hd d h).not_loops hloops
  obtain rfl := eq_of_make hmade
  exact ⟨_, hmade, hw.grown rfl rfl hd⟩

theorem History.grown_of_free (hw : w.History) (hc : w.Complete) {delegates : List Resolver}
    (hd : ∀ d ∈ delegates, w.Free d) (bindings : Bindings) (ns : Value) :
    (w.grown (.bound w.nextId bindings delegates ns)).History := by
  obtain ⟨s, hmade, -⟩ := Sound.make_of_free ⟨hw.placed, hc⟩ hd bindings ns
  obtain rfl := (Prod.mk.inj (eq_of_make hmade)).2
  exact .call (c := .make bindings delegates ns) hw (fun d h => (hd d h).mem) hmade

theorem Sound.addDelegate_of_free (hw : w.Sound) (hr : w.Free r) (hb : r.isBound) (ho : w.Free other) :
    ∃ s, w.addDelegate r other = .ok (w.grown s, s) ∧ s.isBound ∧ (w.grown s).Sound ∧ (w.grown s).Free s ∧
      ∀ t, w.Free t → (w.grown s).Free t := by
  have haccepted := hw.addDelegate_accepted hr.mem hb ho.mem
  obtain ⟨made, hmade⟩ := haccepted.2 fun h => h.elim hr.not_loops ho.not_loops
  obtain ⟨-, rfl⟩ := eq_of_addDelegate hmade
  refine ⟨_, hmade, rfl, hw.grown rfl rfl fun d hd => ?_⟩
  rcases List.mem_append.1 hd with hd | hd
  · refine ⟨hw.placed.delegates_made r hr.mem d hd, fun hloops => hr.not_loops ?_⟩
    exact (loops_iff_delegates (hw.placed.getElem_id r hr.mem) hb).2 ⟨d, hd, hloops⟩
  · rwa [List.mem_singleton.1 hd]

theorem Sound.addDelegate_twice_of_free (hw : w.Sound) (hr : w.Free r) (hb : r.isBound) {first second : Resolver}
    (hfirst : w.Free first) (hsecond : w.Free second) (ns : Value) :
    ∃ w₁ w₂ w₃ w₄ one two pair both,
      w.addDelegate r first = .ok (w₁, one) ∧ w₁.addDelegate one second = .ok (w₂, two) ∧
        w₂.make [] [first, second] ns = .ok (w₃, pair) ∧ w₃.addDelegate r pair = .ok (w₄, both) := by
  obtain ⟨one, hone, hbound, hw₁, hfree₁, hkeep₁⟩ := hw.addDelegate_of_free hr hb hfirst
  obtain ⟨two, htwo, -, hw₂, -, hkeep₂⟩ := hw₁.addDelegate_of_free hfree₁ hbound (hkeep₁ _ hsecond)
  have hkeep (t : Resolver) (ht : w.Free t) : ((w.grown one).grown two).Free t := hkeep₂ t (hkeep₁ t ht)
  have hdelegates : ∀ d ∈ [first, second], ((w.grown one).grown two).Free d := by
    simpa using ⟨hkeep first hfirst, hkeep second hsecond⟩
  obtain ⟨pair, hpair, hw₃, hfree₃, hkeep₃⟩ := hw₂.make_of_free hdelegates [] ns
  obtain ⟨both, hboth, -⟩ := hw₃.addDelegate_of_free (hkeep₃ r (hkeep r hr)) hb hfree₃
  exact ⟨_, _, _, _, one, two, pair, both, hone, htwo, hpair, hboth⟩

/-! ## The laws -/

/-- In a copy the new binding hides what its key, or a key of its namespace without one, found before; the new delegate
answers only what found nothing. Nothing else in the workshop changes. Refused are exactly the copies from which
delegation would reach a cycle. -/
theorem update_laws (w : Workshop) (r : Resolver) :
    (∀ key h after s, w.addKey r key h = .ok (after, s) →
      w.Keeps after ∧ s.defaultNamespace = r.defaultNamespace ∧
        ∀ k, s.resolve k = if k = key ∨ key = k.wildcard ∧ r.bindings.lookup k = none then some h else r.resolve k) ∧
    (∀ other after s, w.addDelegate r other = .ok (after, s) →
      w.Keeps after ∧ s.defaultNamespace = r.defaultNamespace ∧
        ∀ k, s.resolve k = (r.resolve k).or (other.resolve k)) ∧
    (∀ after s, w.addDelegate r r = .ok (after, s) → ∀ k, s.resolve k = r.resolve k) ∧
    (∀ first second w₁ w₂ w₃ w₄ one two pair both,
      w.addDelegate r first = .ok (w₁, one) → w₁.addDelegate one second = .ok (w₂, two) →
        w₂.make [] [first, second] (.text Key.defaultNamespace) = .ok (w₃, pair) →
          w₃.addDelegate r pair = .ok (w₄, both) → ∀ k, two.resolve k = both.resolve k) ∧
    (w.History → w.Complete → r ∈ w.made → r.isBound →
      (∀ key h, AcceptedUnless (w.Loops r) (w.addKey r key h)) ∧
      (∀ other ∈ w.made, AcceptedUnless (w.Loops r ∨ w.Loops other) (w.addDelegate r other)) ∧
      ∀ first ∈ w.made, ∀ second ∈ w.made, ¬ w.Loops r → ¬ w.Loops first → ¬ w.Loops second →
        ∃ w₁ w₂ w₃ w₄ one two pair both,
          w.addDelegate r first = .ok (w₁, one) ∧ w₁.addDelegate one second = .ok (w₂, two) ∧
            w₂.make [] [first, second] (.text Key.defaultNamespace) = .ok (w₃, pair) ∧
              w₃.addDelegate r pair = .ok (w₄, both)) := by
  refine ⟨fun key h after s hmade => ?_, fun other after s hmade => ?_, fun after s hmade k => ?_, ?_, ?_⟩
  · obtain ⟨rfl, rfl⟩ := Prod.mk.inj (eq_of_addKey hmade).2
    exact ⟨keeps_grown w _, rfl, resolve_of_addKey hmade⟩
  · obtain ⟨rfl, rfl⟩ := Prod.mk.inj (eq_of_addDelegate hmade).2
    exact ⟨keeps_grown w _, rfl, resolve_of_addDelegate hmade⟩
  · rw [resolve_of_addDelegate hmade, Option.or_self]
  · intro first second w₁ w₂ w₃ w₄ one two pair both hone htwo hpair hboth
    exact resolve_of_addDelegate_twice hone htwo hpair hboth
  · intro hhistory hc hr hb
    have hw : w.Sound := ⟨hhistory.placed, hc⟩
    refine ⟨hw.addKey_accepted hr hb, fun other ho => hw.addDelegate_accepted hr hb ho, ?_⟩
    intro first hf second hs hfree hfirst hsecond
    exact hw.addDelegate_twice_of_free ⟨hr, hfree⟩ hb ⟨hf, hfirst⟩ ⟨hs, hsecond⟩ _

theorem update_laws_numbers :
    (∃ after s, start.addKey .numbers (.ofText "Math" "*") .path = .ok (after, s) ∧
      s.resolve (.ofText "Math" "TAU") = some .path ∧
        s.resolve (.ofText "Math" "PI") = Resolver.numbers.resolve (.ofText "Math" "PI")) ∧
    ∃ after s, start.addDelegate .numbers .fromContext = .ok (after, s) ∧
      s.resolve (.ofText "field" "name") = some .path := by
  have hmem : Resolver.numbers ∈ start.made := List.mem_cons_self
  have hfree (r : Resolver) : ¬ start.Loops r := not_reachesCycle_of_rank id start_layered.lt_of_leads r.id
  obtain ⟨hkey, hdelegate, -, -, haccepted⟩ := update_laws start .numbers
  obtain ⟨hkeyed, hdelegated, -⟩ := haccepted .start start_layered.complete hmem rfl
  obtain ⟨⟨w₁, s₁⟩, h₁⟩ := (hkeyed (.ofText "Math" "*") .path).2 (hfree _)
  obtain ⟨⟨w₂, s₂⟩, h₂⟩ := (hdelegated .fromContext (by simp [start])).2 fun h => h.elim (hfree _) (hfree _)
  obtain ⟨-, -, hfound⟩ := hkey _ _ _ _ h₁
  refine ⟨⟨w₁, s₁, h₁, ?_, ?_⟩, w₂, s₂, h₂, ?_⟩
  · rw [hfound, if_pos (by decide)]
  · rw [hfound, if_neg (by decide)]
  · rw [(hdelegate _ _ _ h₂).2.2]
    rfl

/-! ## A resolver that is in a cycle once it is named -/

def early : Resolver := .bound 2 [] [] (.text Key.defaultNamespace)

def lateBinding : Resolver := .foreign 3 "Custom(c)" (fun _ => none) (.text Key.defaultNamespace)

/-- A foreign resolver delegates to what the name `r` means, at first the early one. -/
def beforehand : Workshop :=
  (((start.grown early).keep "r" early).makeForeign "Custom(c)" ["r"]).1.keep "c" lateBinding

def late : Resolver := .bound 4 [] [lateBinding] (.text Key.defaultNamespace)

/-- The name means the late one, which delegates to the foreign resolver. -/
def afterwards : Workshop := (beforehand.grown late).keep "r" late

theorem beforehand_history : beforehand.History := by
  have hearly : (start.grown early).History :=
    History.start.grown_of_free start_layered.complete (by simp) [] (.text Key.defaultNamespace)
  have hnamed : ((start.grown early).keep "r" early).History := .keep "r" hearly (by simp [grown])
  exact .keep "c" (.makeForeign "Custom(c)" ["r"] hnamed) (List.mem_append_right _ (List.mem_singleton_self _))

theorem afterwards_history : afterwards.History := by
  have hcomplete : beforehand.Complete := by
    unfold Complete Closed
    decide
  have hearly : ¬ ReachesCycle (Leads beforehand.delegatesOf) 2 :=
    not_reachesCycle_of_next fun b hb => nomatch (hb : b ∈ [])
  have hfree : beforehand.Free lateBinding := by
    refine ⟨List.mem_append_right _ (List.mem_singleton_self _), not_reachesCycle_of_next fun b hb => ?_⟩
    obtain rfl : b = 2 := List.mem_singleton.1 hb
    exact hearly
  have hlate : (beforehand.grown late).History :=
    beforehand_history.grown_of_free hcomplete (by simpa using hfree) [] (.text Key.defaultNamespace)
  exact .keep "r" hlate (List.mem_append_right _ (List.mem_singleton_self _))

/-- It was accepted when it was made; since then it is refused a copy. -/
theorem late_refused :
    afterwards.History ∧ afterwards.find? "r" = some late ∧ late ∈ afterwards.made ∧ late.isBound ∧
      ∃ shown, afterwards.addKey late (.ofText "field" "x") (.const (.int 1)) = .error (.cyclicDelegation shown) := by
  have hcomplete : afterwards.Complete := by
    unfold Complete Closed
    decide
  have hcycle : ShowsCycle (Leads afterwards.delegatesOf) 4 [4, 3, 4] := by
    refine ⟨rfl, ?_, [4, 3], 4, rfl, by simp⟩
    unfold Leads
    decide
  have hmem : late ∈ afterwards.made := List.mem_append_right _ (List.mem_singleton_self _)
  have hsound : afterwards.Sound := ⟨afterwards_history.placed, hcomplete⟩
  refine ⟨afterwards_history, rfl, hmem, rfl, ?_⟩
  exact (hsound.addKey_accepted hmem rfl (.ofText "field" "x") (.const (.int 1))).1 hcycle.reachesCycle

end Workshop

end Stencil
