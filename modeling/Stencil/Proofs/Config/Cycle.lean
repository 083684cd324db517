import Mathlib
import Stencil.Proofs.Config.Building
import Stencil.Proofs.Config.Definition
import Stencil.Proofs.Delegation.Cycle
import Stencil.Proofs.Keys.Label

/-!
Cyclic delegation. Main statement: building a resolver ends, refuses exactly the names from which a cycle is reached, and
shows the way into the cycle and round it.
-/

namespace Stencil.Config

open Relation

variable {f : Folder} {building : List Label} {built : Built} {names : List Value}
  {out : Result (Built × List Resolver)} {a b name : String} {chain : List String}

/-! ## Delegation by name -/

/-- The definition of one name lists the other among its delegates. -/
def Folder.Delegates (f : Folder) (a b : String) : Prop :=
  ∃ definition names, f.load .keys a = .ok definition ∧ delegateNames definition = .ok names ∧ .text b ∈ names

def Folder.ReachesCycle (f : Folder) (name : String) : Prop :=
  ∃ a, ReflTransGen f.Delegates name a ∧ TransGen f.Delegates a a

/-- Every name that a name reaches has a definition, and a well-formed one. -/
def Folder.SoundFrom (f : Folder) (name : String) : Prop :=
  ∀ a, ReflTransGen f.Delegates name a → ∃ definition, f.load .keys a = .ok definition ∧ WellFormed definition

theorem delegates_iff_draft {d : Draft} (hd : f.draft (.text a) = .ok d) : f.Delegates a b ↔ .text b ∈ d.delegates := by
  obtain ⟨hl, -, hn⟩ := draft_text_eq_ok_iff.1 hd
  constructor
  · rintro ⟨definition, names, hl', hn', hb⟩
    obtain rfl := Except.ok.inj (hl.symm.trans hl')
    obtain rfl := Except.ok.inj (hn.symm.trans hn')
    exact hb
  · exact fun hb => ⟨_, _, hl, hn, hb⟩

/-! ## The chain that is shown -/

/-- The same step between labels, some of which are no texts. -/
def Leads (f : Folder) (a b : Label) : Prop :=
  ∃ v d, v.toLabel = .ok a ∧ f.draft v = .ok d ∧ ∃ w ∈ d.delegates, w.toLabel = .ok b

theorem Leads.delegates (h : Leads f (.text a) (.text b)) : f.Delegates a b := by
  obtain ⟨v, d, ha, hd, w, hw, hb⟩ := h
  rw [Value.toLabel_eq_text_iff] at ha hb
  subst ha hb
  exact (delegates_iff_draft hd).2 hw

theorem chainOf_eq_ok_iff {labels : List Label} : chainOf labels = .ok chain ↔ labels = chain.map .text := by
  induction labels generalizing chain with
  | nil => simp [chainOf, eq_comm]
  | cons label labels ih =>
    cases label with
    | scalar s =>
      rw [chainOf]
      constructor
      · intro h
        cases h
      · intro h
        obtain ⟨s, rest, -, hs, -⟩ := List.map_eq_cons_iff.1 h.symm
        cases hs
    | text s =>
      rw [chainOf, Outcome.bind_eq_ok_iff]
      constructor
      · rintro ⟨rest, hr, h⟩
        cases h
        rw [ih.1 hr, List.map_cons]
      · intro h
        obtain ⟨s', rest, rfl, hs, hr⟩ := List.map_eq_cons_iff.1 h.symm
        cases hs
        exact ⟨rest, ih.2 hr.symm, rfl⟩

theorem chainOf_reportsNoCycle (labels : List Label) : ReportsNoCycle (chainOf labels) := by
  induction labels with
  | nil => exact reportsNoCycle_ok _
  | cons label labels ih =>
    cases label with
    | text s =>
      rw [chainOf]
      exact ih.bind fun _ => reportsNoCycle_ok _
    | scalar s =>
      intro chain h
      cases h

theorem refuseCycle_eq_iff {labels : List Label} :
    refuseCycle labels = .error (.cyclicDelegation chain) ↔ labels = chain.map .text := by
  rw [refuseCycle, Outcome.bind_eq_error_iff, ← chainOf_eq_ok_iff]
  constructor
  · rintro (h | ⟨shown, hs, h⟩)
    · exact absurd h (chainOf_reportsNoCycle labels chain)
    · cases h
      exact hs
  · exact fun h => .inr ⟨chain, h, rfl⟩

def ClosesCycle (f : Folder) (way : List Label) : Prop :=
  way.IsChain (Leads f) ∧ ∃ front last, way = front ++ [last] ∧ last ∈ front

def WaysTo (f : Folder) (building : List Label) (names : List Value) : Prop :=
  ∀ v ∈ names, ∀ label, v.toLabel = .ok label → (building ++ [label]).IsChain (Leads f)

theorem waysTo_delegates {d : Draft} {v : Value} {label : Label} (h : (building ++ [label]).IsChain (Leads f))
    (hl : v.toLabel = .ok label) (hd : f.draft v = .ok d) : WaysTo f (building ++ [label]) d.delegates := by
  intro w hw next hn
  rw [List.isChain_append]
  refine ⟨h, .singleton _, ?_⟩
  intro x hx y hy
  rw [List.getLast?_concat, Option.mem_some_iff] at hx
  rw [List.head?_cons, Option.mem_some_iff] at hy
  subst hx hy
  exact ⟨v, d, hl, hd, w, hw, hn⟩

theorem Builds.closesCycle (h : Builds f building built names out) (ho : out = .error (.cyclicDelegation chain))
    (hw : WaysTo f building names) (hrun : (workshopOf built).Run) :
    ClosesCycle f (chain.map .text) ∧
      ∃ v ∈ names, ∃ label, v.toLabel = .ok label ∧ building ++ [label] <+: chain.map .text := by
  induction h with
  | nil => cases ho
  | unnamed hl =>
    cases ho
    exact absurd hl (toLabel_reportsNoCycle _ chain)
  | @cyclic building built v vs label e hl hb he =>
    cases ho
    rw [refuseCycle_eq_iff] at he
    rw [← he]
    exact ⟨⟨hw v List.mem_cons_self label hl, building, label, rfl, hb⟩, v, List.mem_cons_self, label, hl,
      List.prefix_rfl⟩
  | known _ _ _ _ ih =>
    rw [WaysTo, List.forall_mem_cons] at hw
    obtain ⟨hc, v, hv, hp⟩ := ih (Outcome.map_eq_error_iff.1 ho) hw.2 hrun
    exact ⟨hc, v, List.mem_cons_of_mem _ hv, hp⟩
  | undrafted _ hd =>
    cases ho
    exact absurd hd (draft_reportsNoCycle _ chain)
  | @unfinished building built v vs label d e hu hd _ ih =>
    have hway := hw v List.mem_cons_self label hu.1
    obtain ⟨hc, _, _, next, _, hp⟩ := ih ho (waysTo_delegates hway hu.1 hd) hrun
    exact ⟨hc, v, List.mem_cons_self, label, hu.1, (List.prefix_append _ _).trans hp⟩
  | incomplete _ _ hdelegates he _ =>
    cases ho
    obtain ⟨hbetween, -, hrs⟩ := hdelegates.run rfl hrun
    exact absurd he (complete_reportsNoCycle hbetween hrs _ chain)
  | complete _ _ hdelegates hk _ _ ih =>
    rw [WaysTo, List.forall_mem_cons] at hw
    obtain ⟨hbetween, -, hrs⟩ := hdelegates.run rfl hrun
    obtain ⟨hc, v, hv, hp⟩ := ih (Outcome.map_eq_error_iff.1 ho) hw.2 (Draft.run_complete hbetween hrs hk)
    exact ⟨hc, v, List.mem_cons_of_mem _ hv, hp⟩

/-! ## A resolver that is built reaches no cycle -/

def Settled (f : Folder) (built : Built) : Prop :=
  ∀ a r, built.lookup (.text a) = some r → ¬ f.ReachesCycle a

theorem Settled.complete {d : Draft} {v : Value} {label : Label} {between kept : Built} {rs : List Resolver}
    {r : Resolver} (hs : Settled f between) (hl : v.toLabel = .ok label) (hd : f.draft v = .ok d)
    (hn : ∀ a, .text a ∈ d.delegates → ¬ f.ReachesCycle a) (ho : d.complete label between rs = .ok (kept, r)) :
    Settled f kept ∧ ∀ a, label = .text a → ¬ f.ReachesCycle a := by
  have hlabel : ∀ a, label = .text a → ¬ f.ReachesCycle a := by
    rintro a rfl
    obtain rfl := Value.toLabel_eq_text_iff.1 hl
    exact not_reachesCycle_of_next fun b hb => hn b ((delegates_iff_draft hd).1 hb)
  refine ⟨?_, hlabel⟩
  rw [(Draft.exists_make ho).1]
  intro a s hl
  by_cases ha : Label.text a = label
  · exact hlabel a ha.symm
  · rw [List.lookup_cons, beq_eq_false_iff_ne.2 ha] at hl
    exact hs a s hl

theorem Builds.settled {after : Built} {rs : List Resolver} (h : Builds f building built names out)
    (ho : out = .ok (after, rs)) (hs : Settled f built) :
    Settled f after ∧ ∀ a, .text a ∈ names → ¬ f.ReachesCycle a := by
  induction h generalizing after rs with
  | nil =>
    cases ho
    exact ⟨hs, by simp⟩
  | @known building built v vs label r later hl hb hr _ ih =>
    obtain ⟨⟨after', rs'⟩, hlater, hb⟩ := Outcome.map_eq_ok_iff.1 ho
    cases hb
    obtain ⟨ha, hvs⟩ := ih hlater hs
    refine ⟨ha, fun a hmem => ?_⟩
    rcases List.mem_cons.1 hmem with rfl | hmem
    · cases hl
      exact hs a r hr
    · exact hvs a hmem
  | @complete building built between kept v vs label d rs r later hu hd _ hk _ ih ihl =>
    obtain ⟨⟨after', rs'⟩, hlater, hb⟩ := Outcome.map_eq_ok_iff.1 ho
    cases hb
    obtain ⟨hbetween, hdelegates⟩ := ih rfl hs
    obtain ⟨hkept, hlabel⟩ := hbetween.complete hu.1 hd hdelegates hk
    obtain ⟨ha, hvs⟩ := ihl hlater hkept
    refine ⟨ha, fun a hmem => ?_⟩
    rcases List.mem_cons.1 hmem with rfl | hmem
    · exact hlabel a (Except.ok.inj (hu.1.symm.trans rfl))
    · exact hvs a hmem
  | _ => cases ho

/-! ## Sound definitions -/

theorem Folder.SoundFrom.of_delegates (h : f.SoundFrom a) (hab : f.Delegates a b) : f.SoundFrom b :=
  fun c hc => h c (.head hab hc)

theorem Folder.SoundFrom.draft (h : f.SoundFrom a) :
    ∃ d, f.draft (.text a) = .ok d ∧ WellFormed d.definition ∧ ∀ v ∈ d.delegates, ∃ b, v = .text b ∧ f.SoundFrom b := by
  obtain ⟨definition, hl, hw⟩ := h a .refl
  obtain ⟨bindings, names, hd⟩ := draft_of_wellFormed hl hw
  refine ⟨_, hd, hw, ?_⟩
  intro v hv
  obtain ⟨b, -, rfl⟩ := List.mem_map.1 hv
  exact ⟨b, rfl, h.of_delegates ((delegates_iff_draft hd).2 hv)⟩

def OkOrCyclic {α : Type} (out : Result α) : Prop := ∀ e, out = .error e → ∃ chain, e = .cyclicDelegation chain

theorem OkOrCyclic.map {α β : Type} {out : Result α} (h : OkOrCyclic out) (g : α → β) : OkOrCyclic (out.map g) :=
  fun e he => h e (Outcome.map_eq_error_iff.1 he)

theorem Builds.okOrCyclic (h : Builds f building built names out)
    (hn : ∀ v ∈ names, ∃ a, v = .text a ∧ f.SoundFrom a) (hb : ∃ way : List String, building = way.map .text)
    (hrun : (workshopOf built).Run) : OkOrCyclic out := by
  induction h with
  | nil =>
    intro e he
    cases he
  | unnamed hl =>
    obtain ⟨a, rfl, -⟩ := hn _ List.mem_cons_self
    cases hl
  | cyclic hl _ he =>
    obtain ⟨a, rfl, -⟩ := hn _ List.mem_cons_self
    obtain ⟨way, rfl⟩ := hb
    cases hl
    have hc : refuseCycle (way.map .text ++ [.text a]) = .error (.cyclicDelegation (way ++ [a])) :=
      refuseCycle_eq_iff.2 (by simp)
    rintro _ ⟨⟩
    exact ⟨way ++ [a], Except.error.inj (he.symm.trans hc)⟩
  | known _ _ _ _ ih => exact (ih (List.forall_mem_cons.1 hn).2 hb hrun).map _
  | undrafted hu hd =>
    obtain ⟨a, rfl, ha⟩ := hn _ List.mem_cons_self
    obtain ⟨d, hd', -⟩ := ha.draft
    cases hu.1
    cases hd.symm.trans hd'
  | unfinished hu hd _ ih =>
    obtain ⟨a, rfl, ha⟩ := hn _ List.mem_cons_self
    obtain ⟨d, hd', -, hdelegates⟩ := ha.draft
    obtain ⟨way, rfl⟩ := hb
    cases hu.1
    cases hd.symm.trans hd'
    exact ih hdelegates ⟨way ++ [a], by simp⟩ hrun
  | incomplete hu hd hmade he _ =>
    obtain ⟨a, rfl, ha⟩ := hn _ List.mem_cons_self
    obtain ⟨d, hd', hw, -⟩ := ha.draft
    cases hu.1
    cases hd.symm.trans hd'
    obtain ⟨hbetween, -, hrs⟩ := hmade.run rfl hrun
    obtain ⟨kept, hk⟩ := complete_of_wellFormed hw hbetween hrs _
    cases he.symm.trans hk
  | complete _ _ hmade hk _ _ ihl =>
    obtain ⟨hbetween, -, hrs⟩ := hmade.run rfl hrun
    exact (ihl (List.forall_mem_cons.1 hn).2 hb (Draft.run_complete hbetween hrs hk)).map _

/-! ## Building a resolver -/

theorem builds_of_build_eq_error {e : Error} (h : f.build (.text name) = .error e) :
    Builds f [] [] [.text name] (.error e) := by
  obtain ⟨run, hrun, hout⟩ := ends_iff_build.2 h
  rwa [Outcome.map_eq_error_iff.1 hout] at hrun

theorem builds_of_build_eq_ok {r : Resolver} (h : f.build (.text name) = .ok r) :
    ∃ built, Builds f [] [] [.text name] (.ok (built, [r])) := by
  obtain ⟨run, hrun, hout⟩ := ends_iff_build.2 h
  obtain ⟨⟨built, rs⟩, rfl, rfl⟩ := Outcome.map_eq_ok_iff.1 hout
  exact ⟨built, hrun⟩

theorem chain_of_build_eq_cyclic (h : f.build (.text name) = .error (.cyclicDelegation chain)) :
    chain.head? = some name ∧ chain.IsChain f.Delegates ∧ ∃ front last, chain = front ++ [last] ∧ last ∈ front := by
  have hw : WaysTo f [] [.text name] := fun _ _ _ _ => .singleton _
  obtain ⟨⟨hc, front, last, he, hm⟩, v, hv, label, hl, hp⟩ :=
    (builds_of_build_eq_error h).closesCycle rfl hw run_workshopOf_nil
  obtain rfl := List.mem_singleton.1 hv
  obtain rfl := Except.ok.inj hl
  refine ⟨?_, ?_, ?_⟩
  · obtain ⟨rest, hrest⟩ := hp
    obtain ⟨s, names, rfl, hs, -⟩ := List.map_eq_cons_iff.1 hrest.symm
    rw [Label.text.inj hs, List.head?_cons]
  · exact List.isChain_of_isChain_map Label.text (fun _ _ => Leads.delegates) hc
  · obtain ⟨front, lasts, rfl, rfl, hlast⟩ := List.map_eq_append_iff.1 he
    obtain ⟨last, rfl, rfl⟩ := List.map_eq_singleton_iff.1 hlast
    obtain ⟨earlier, hearlier, hs⟩ := List.mem_map.1 hm
    obtain rfl := Label.text.inj hs
    exact ⟨front, earlier, rfl, hearlier⟩

theorem reachesCycle_of_build_eq_cyclic (h : f.build (.text name) = .error (.cyclicDelegation chain)) :
    f.ReachesCycle name := by
  obtain ⟨hh, hc, hr⟩ := chain_of_build_eq_cyclic h
  have hshows : ShowsCycle f.Delegates name chain := ⟨hh, hc, hr⟩
  exact hshows.reachesCycle

theorem not_reachesCycle_of_build_eq_ok {r : Resolver} (h : f.build (.text name) = .ok r) :
    ¬ f.ReachesCycle name := by
  obtain ⟨built, hrun⟩ := builds_of_build_eq_ok h
  have hnone : Settled f [] := by
    intro a r hr
    cases hr
  exact (hrun.settled rfl hnone).2 name (by simp)

theorem Folder.SoundFrom.okOrCyclic (h : f.SoundFrom name) : OkOrCyclic (f.build (.text name)) := by
  intro e he
  refine (builds_of_build_eq_error he).okOrCyclic ?_ ⟨[], rfl⟩ run_workshopOf_nil e rfl
  intro v hv
  exact ⟨name, List.mem_singleton.1 hv, h⟩

theorem Folder.SoundFrom.exists_build (h : f.SoundFrom name) (hc : ¬ f.ReachesCycle name) :
    ∃ r, f.build (.text name) = .ok r := by
  cases hb : f.build (.text name) with
  | ok r => exact ⟨r, rfl⟩
  | error e =>
    obtain ⟨chain, rfl⟩ := h.okOrCyclic e hb
    exact absurd (reachesCycle_of_build_eq_cyclic hb) hc

/-- Building ends. Where the definitions that a name reaches are sound, it refuses the name exactly when it reaches a
cycle. The chain that is shown leads from the name into the cycle and round it. -/
theorem build_refuses_exactly_cycles (f : Folder) (name : String) :
    (∀ out, Ends f (.text name) out ↔ f.build (.text name) = out) ∧
      (f.SoundFrom name →
        ((∃ chain, f.build (.text name) = .error (.cyclicDelegation chain)) ↔ f.ReachesCycle name) ∧
          (¬ f.ReachesCycle name → ∃ r, f.build (.text name) = .ok r)) ∧
      ∀ chain, f.build (.text name) = .error (.cyclicDelegation chain) →
        chain.head? = some name ∧ chain.IsChain f.Delegates ∧
          ∃ front last, chain = front ++ [last] ∧ last ∈ front := by
  refine ⟨fun out => ends_iff_build, fun hs => ?_, fun chain => chain_of_build_eq_cyclic⟩
  cases hb : f.build (.text name) with
  | ok r =>
    have hnone := not_reachesCycle_of_build_eq_ok hb
    refine ⟨⟨?_, fun h => absurd h hnone⟩, fun _ => ⟨r, rfl⟩⟩
    rintro ⟨chain, ⟨⟩⟩
  | error e =>
    obtain ⟨chain, rfl⟩ := hs.okOrCyclic e hb
    have hreach := reachesCycle_of_build_eq_cyclic hb
    exact ⟨⟨fun _ => hreach, fun _ => ⟨chain, rfl⟩⟩, fun h => absurd hreach h⟩

def pingPong : Folder :=
  ⟨[(["keys", "ping.json"], "\x7b\"delegates\": [\"pong\"]\x7d"),
    (["keys", "pong.json"], "\x7b\"delegates\": [\"ping\"]\x7d")]⟩

theorem wellFormed_delegates (names : List String) :
    WellFormed [(.text "delegates", .list (names.map .text))] := by
  refine ⟨?_, ?_, ?_, ?_, ?_⟩ <;> intro v hv <;> simp [Value.lookup?] at hv
  exact ⟨names, hv.symm⟩

theorem pingPong_soundFrom : pingPong.SoundFrom "ping" := by
  have hping : pingPong.load .keys "ping" = .ok [(.text "delegates", .list (["pong"].map .text))] := by cbv
  have hpong : pingPong.load .keys "pong" = .ok [(.text "delegates", .list (["ping"].map .text))] := by cbv
  have hnames : ∀ a, ReflTransGen pingPong.Delegates "ping" a → a = "ping" ∨ a = "pong" := by
    intro a h
    induction h with
    | refl => exact .inl rfl
    | tail _ hd ih =>
      obtain ⟨definition, names, hl, hn, hb⟩ := hd
      rcases ih with rfl | rfl
      · cases hping.symm.trans hl
        cases hn
        exact .inr (by simpa using hb)
      · cases hpong.symm.trans hl
        cases hn
        exact .inl (by simpa using hb)
  intro a h
  rcases hnames a h with rfl | rfl
  · exact ⟨_, hping, wellFormed_delegates _⟩
  · exact ⟨_, hpong, wellFormed_delegates _⟩

theorem pingPong_reachesCycle : pingPong.ReachesCycle "ping" :=
  ((build_refuses_exactly_cycles pingPong "ping").2.1 pingPong_soundFrom).1.1 ⟨["ping", "pong", "ping"], by cbv⟩

end Stencil.Config
