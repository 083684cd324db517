import Mathlib.Data.List.TakeWhile
import Stencil.Config.Build
import Stencil.Proofs.Outcome

/-!
Building as a relation that knows no bound. A derivation is a finite run, so the main statement, that building a name
always has a derivation and answers what it says, is that building ends.
-/

namespace Stencil.Config

variable {f : Folder} {fresh building : List Label} {built : Built} {name : Label} {names : List Value}
  {value : Value}

def before (r : Resolver) (later : Built × List Resolver) : Built × List Resolver := (later.1, r :: later.2)

/-- A name that neither is on the way nor has its resolver yet. -/
def Unbuilt (building : List Label) (built : Built) (v : Value) (name : Label) : Prop :=
  v.toLabel = .ok name ∧ name ∉ building ∧ built.lookup name = none

/-- How the resolvers of some names are built in turn, up to the first that fails, with the names on the way to them
and the resolvers built so far. -/
inductive Builds (f : Folder) : List Label → Built → List Value → Result (Built × List Resolver) → Prop
  | nil {building : List Label} {built : Built} : Builds f building built [] (.ok (built, []))
  | unnamed {building : List Label} {built : Built} {v : Value} {vs : List Value} {e : Error} :
      v.toLabel = .error e → Builds f building built (v :: vs) (.error e)
  | cyclic {building : List Label} {built : Built} {v : Value} {vs : List Value} {name : Label} {e : Error} :
      v.toLabel = .ok name → name ∈ building → refuseCycle (building ++ [name]) = .error e →
      Builds f building built (v :: vs) (.error e)
  | known {building : List Label} {built : Built} {v : Value} {vs : List Value} {name : Label} {r : Resolver}
      {later : Result (Built × List Resolver)} :
      v.toLabel = .ok name → name ∉ building → built.lookup name = some r → Builds f building built vs later →
      Builds f building built (v :: vs) (later.map (before r))
  | undrafted {building : List Label} {built : Built} {v : Value} {vs : List Value} {name : Label} {e : Error} :
      Unbuilt building built v name → f.draft v = .error e → Builds f building built (v :: vs) (.error e)
  | unfinished {building : List Label} {built : Built} {v : Value} {vs : List Value} {name : Label} {d : Draft}
      {e : Error} :
      Unbuilt building built v name → f.draft v = .ok d →
      Builds f (building ++ [name]) built d.delegates (.error e) → Builds f building built (v :: vs) (.error e)
  | incomplete {building : List Label} {built between : Built} {v : Value} {vs : List Value} {name : Label}
      {d : Draft} {rs : List Resolver} {e : Error} :
      Unbuilt building built v name → f.draft v = .ok d →
      Builds f (building ++ [name]) built d.delegates (.ok (between, rs)) →
      d.complete name between rs = .error e → Builds f building built (v :: vs) (.error e)
  | complete {building : List Label} {built between kept : Built} {v : Value} {vs : List Value} {name : Label}
      {d : Draft} {rs : List Resolver} {r : Resolver} {later : Result (Built × List Resolver)} :
      Unbuilt building built v name → f.draft v = .ok d →
      Builds f (building ++ [name]) built d.delegates (.ok (between, rs)) →
      d.complete name between rs = .ok (kept, r) → Builds f building kept vs later →
      Builds f building built (v :: vs) (later.map (before r))

/-! ## One step of building -/

theorem buildEach_cons {v : Value} {vs : List Value} :
    buildEach f fresh building built (v :: vs) =
      buildFrom f fresh building built v >>= fun first =>
        (buildEach f fresh building first.1 vs).map (before first.2) := by
  rw [buildEach]
  cases buildFrom f fresh building built v with
  | error e => rfl
  | ok first =>
    rw [Outcome.ok_bind, Outcome.ok_bind]
    dsimp only
    cases buildEach f fresh building first.1 vs <;> rfl

theorem buildEach_of_unnamed {v : Value} {vs : List Value} {e : Error} (hl : v.toLabel = .error e) :
    buildEach f fresh building built (v :: vs) = .error e := by
  rw [buildEach_cons, buildFrom, hl, Outcome.error_bind, Outcome.error_bind]

theorem refuseCycle_fails (chain : List Label) : ∃ e, refuseCycle chain = .error e := by
  rw [refuseCycle]
  cases chainOf chain with
  | ok shown => exact ⟨_, rfl⟩
  | error e => exact ⟨e, rfl⟩

theorem buildEach_of_cyclic {v : Value} {vs : List Value} {e : Error} (hl : v.toLabel = .ok name)
    (hb : name ∈ building) (he : refuseCycle (building ++ [name]) = .error e) :
    buildEach f fresh building built (v :: vs) = .error e := by
  rw [buildEach_cons, buildFrom, hl, Outcome.ok_bind, if_pos hb, he, Outcome.error_bind]

theorem buildEach_of_known {v : Value} {vs : List Value} {r : Resolver} (hl : v.toLabel = .ok name)
    (hb : name ∉ building) (hr : built.lookup name = some r) :
    buildEach f fresh building built (v :: vs) = (buildEach f fresh building built vs).map (before r) := by
  have hfirst : buildFrom f fresh building built v = .ok (built, r) := by
    rw [buildFrom, hl, Outcome.ok_bind, if_neg hb, hr]
  rw [buildEach_cons, hfirst, Outcome.ok_bind]

theorem buildEach_of_unbuilt {v : Value} {vs : List Value} (hu : Unbuilt building built v name) (hf : name ∈ fresh) :
    buildEach f fresh building built (v :: vs) =
      f.draft v >>= fun d => buildEach f (fresh.erase name) (building ++ [name]) built d.delegates >>= fun between =>
        d.complete name between.1 between.2 >>= fun kept =>
          (buildEach f fresh building kept.1 vs).map (before kept.2) := by
  have hfirst : buildFrom f fresh building built v =
      f.draft v >>= fun d => buildEach f (fresh.erase name) (building ++ [name]) built d.delegates >>= fun between =>
        d.complete name between.1 between.2 := by
    rw [buildFrom, hu.1, Outcome.ok_bind, if_neg hu.2.1, hu.2.2]
    simp only [dif_pos hf]
  rw [buildEach_cons, hfirst]
  simp only [bind_assoc]

/-! ## The names that can come up -/

theorem mem_mentioned {definition : List (Value × Value)} {file : String} {v : Value}
    (hl : f.load .keys file = .ok definition) (hn : delegateNames definition = .ok names) (hv : v ∈ names)
    (hname : v.toLabel = .ok name) : name ∈ f.mentioned := by
  rw [Folder.load] at hl
  split at hl
  · cases hl
  · next text ht =>
    obtain ⟨path, -, hp⟩ := Option.bind_eq_some_iff.1 ht
    obtain ⟨place, -, hp⟩ := Option.bind_eq_some_iff.1 hp
    obtain ⟨raw, hraw, hp⟩ := Option.bind_eq_some_iff.1 hp
    obtain rfl := Option.some.inj hp
    obtain ⟨value, hread, hvalue⟩ := Outcome.bind_eq_ok_iff.1 hl
    cases value with
    | map entries =>
      cases hvalue
      refine List.mem_flatMap.2 ⟨(place, raw), ?_, ?_⟩
      · obtain ⟨before, after, he, -⟩ := List.lookup_eq_some_iff.1 hraw
        simp [he]
      · simp only [hread, hn]
        exact List.mem_filterMap.2 ⟨v, hv, by rw [hname]; rfl⟩
    | _ => cases hvalue

theorem draft_eq_ok_iff {d : Draft} :
    f.draft value = .ok d ↔
      ∃ file, value.spelled = .ok file ∧ f.load .keys file = .ok d.definition ∧
        bindingsOf d.definition = .ok d.bindings ∧ delegateNames d.definition = .ok d.delegates := by
  obtain ⟨definition, bindings, delegates⟩ := d
  simp only [Folder.draft, Outcome.bind_eq_ok_iff, Outcome.pure_eq_ok, Except.ok.injEq, Draft.mk.injEq]
  constructor
  · rintro ⟨file, hf, _, hl, _, hb, _, hn, rfl, rfl, rfl⟩
    exact ⟨file, hf, hl, hb, hn⟩
  · rintro ⟨file, hf, hl, hb, hn⟩
    exact ⟨file, hf, _, hl, _, hb, _, hn, rfl, rfl, rfl⟩

theorem draft_text_eq_ok_iff {file : String} {d : Draft} :
    f.draft (.text file) = .ok d ↔ f.load .keys file = .ok d.definition ∧ bindingsOf d.definition = .ok d.bindings ∧
      delegateNames d.definition = .ok d.delegates := by
  rw [draft_eq_ok_iff]
  constructor
  · rintro ⟨file, ⟨⟩, h⟩
    exact h
  · exact fun h => ⟨file, rfl, h⟩

def Covers (f : Folder) (fresh building : List Label) : Prop :=
  ∀ name ∈ f.mentioned, name ∈ fresh ∨ name ∈ building

theorem Covers.erase (h : Covers f fresh building) (name : Label) :
    Covers f (fresh.erase name) (building ++ [name]) := by
  intro other ho
  by_cases he : other = name
  · exact .inr (by simp [he])
  · rcases h other ho with hf | hb
    · exact .inl ((List.mem_erase_of_ne he).2 hf)
    · exact .inr (by simp [hb])

def Admits (fresh building : List Label) (names : List Value) : Prop :=
  ∀ v ∈ names, ∀ name, v.toLabel = .ok name → name ∈ fresh ∨ name ∈ building

theorem Admits.tail {v : Value} {vs : List Value} (h : Admits fresh building (v :: vs)) : Admits fresh building vs :=
  (List.forall_mem_cons.1 h).2

theorem Admits.mem_fresh {v : Value} {vs : List Value} (h : Admits fresh building (v :: vs))
    (hu : Unbuilt building built v name) : name ∈ fresh :=
  ((List.forall_mem_cons.1 h).1 name hu.1).resolve_right hu.2.1

theorem admits_delegates {d : Draft} (h : Covers f fresh building) (hd : f.draft value = .ok d) :
    Admits fresh building d.delegates := by
  obtain ⟨file, -, hl, -, hn⟩ := draft_eq_ok_iff.1 hd
  exact fun v hv label hlabel => h label (mem_mentioned hl hn hv hlabel)

/-! ## Building has a derivation -/

theorem builds_buildEach (hc : Covers f fresh building) (hn : Admits fresh building names) :
    Builds f building built names (buildEach f fresh building built names) := by
  induction hk : fresh.length using Nat.strong_induction_on generalizing fresh building built names with
  | _ k deeper =>
    subst hk
    induction names generalizing built with
    | nil =>
      rw [buildEach]
      exact .nil
    | cons v vs ih =>
      cases hl : v.toLabel with
      | error e =>
        rw [buildEach_of_unnamed hl]
        exact .unnamed hl
      | ok name =>
        by_cases hb : name ∈ building
        · obtain ⟨e, he⟩ := refuseCycle_fails (building ++ [name])
          rw [buildEach_of_cyclic hl hb he]
          exact .cyclic hl hb he
        cases hr : built.lookup name with
        | some r =>
          rw [buildEach_of_known hl hb hr]
          exact .known hl hb hr (ih hn.tail)
        | none =>
          have hu : Unbuilt building built v name := ⟨hl, hb, hr⟩
          have hf : name ∈ fresh := hn.mem_fresh hu
          rw [buildEach_of_unbuilt hu hf]
          cases hd : f.draft v with
          | error e => exact .undrafted hu hd
          | ok d =>
            have hlt : (fresh.erase name).length < fresh.length := by
              have := List.length_erase_of_mem hf
              have := List.length_pos_of_mem hf
              omega
            have heach : Builds f (building ++ [name]) built d.delegates _ :=
              deeper _ hlt (hc.erase name) (admits_delegates (hc.erase name) hd) rfl
            rw [Outcome.ok_bind]
            cases he : buildEach f (fresh.erase name) (building ++ [name]) built d.delegates with
            | error e =>
              rw [he] at heach
              exact .unfinished hu hd heach
            | ok between =>
              rw [he] at heach
              rw [Outcome.ok_bind]
              cases ho : d.complete name between.1 between.2 with
              | error e => exact .incomplete hu hd heach ho
              | ok kept => exact .complete hu hd heach ho (ih hn.tail)

/-! ## A derivation says what building answers -/

theorem Builds.eq {out : Result (Built × List Resolver)} (h : Builds f building built names out)
    (hc : Covers f fresh building) (hn : Admits fresh building names) :
    buildEach f fresh building built names = out := by
  induction h generalizing fresh with
  | nil => rw [buildEach]
  | unnamed hl => exact buildEach_of_unnamed hl
  | cyclic hl hb he => exact buildEach_of_cyclic hl hb he
  | known hl hb hr _ ih => rw [buildEach_of_known hl hb hr, ih hc hn.tail]
  | undrafted hu hd => rw [buildEach_of_unbuilt hu (hn.mem_fresh hu), hd, Outcome.error_bind]
  | unfinished hu hd _ ih =>
    have he := ih (hc.erase _) (admits_delegates (hc.erase _) hd)
    rw [buildEach_of_unbuilt hu (hn.mem_fresh hu), hd, Outcome.ok_bind, he, Outcome.error_bind]
  | incomplete hu hd _ ho ih =>
    have he := ih (hc.erase _) (admits_delegates (hc.erase _) hd)
    rw [buildEach_of_unbuilt hu (hn.mem_fresh hu), hd, Outcome.ok_bind, he, Outcome.ok_bind, ho, Outcome.error_bind]
  | complete hu hd _ ho _ ih ihl =>
    have he := ih (hc.erase _) (admits_delegates (hc.erase _) hd)
    rw [buildEach_of_unbuilt hu (hn.mem_fresh hu), hd, Outcome.ok_bind, he, Outcome.ok_bind, ho, Outcome.ok_bind,
      ihl hc hn.tail]

/-! ## Building ends -/

theorem builds_iff_buildEach {out : Result (Built × List Resolver)} :
    Builds f [] [] [value] out ↔ buildEach f (f.namesFrom value) [] [] [value] = out := by
  have hc : Covers f (f.namesFrom value) [] := fun other ho => .inl (List.mem_append_right _ ho)
  have hn : Admits (f.namesFrom value) [] [value] := by
    intro v hv label hlabel
    obtain rfl := List.mem_singleton.1 hv
    exact .inl (by simp [Folder.namesFrom, labelsAmong, hlabel, Except.toOption])
  refine ⟨fun h => h.eq hc hn, fun h => ?_⟩
  rw [← h]
  exact builds_buildEach hc hn

theorem buildEach_single :
    (buildEach f (f.namesFrom value) [] [] [value]).map Prod.snd = (f.build value).map fun r => [r] := by
  rw [buildEach_cons, Folder.build]
  cases buildFrom f (f.namesFrom value) [] [] value with
  | error e => rfl
  | ok first =>
    rw [Outcome.ok_bind, Outcome.ok_bind, buildEach]
    rfl

/-- What comes of building a value's name, by a run of any length. -/
def Ends (f : Folder) (value : Value) (out : Result Resolver) : Prop :=
  ∃ run, Builds f [] [] [value] run ∧ run.map Prod.snd = out.map fun r => [r]

theorem map_singleton_injective {x y : Result Resolver} (h : (x.map fun r => [r]) = y.map fun r => [r]) : x = y := by
  cases x <;> cases y <;> simp_all [Except.map]

/-- Building ends, with the one outcome that a run gives it. -/
theorem ends_iff_build {out : Result Resolver} : Ends f value out ↔ f.build value = out := by
  constructor
  · rintro ⟨run, h, hout⟩
    rw [builds_iff_buildEach] at h
    refine map_singleton_injective ?_
    rw [← buildEach_single, h, hout]
  · rintro rfl
    exact ⟨_, builds_iff_buildEach.2 rfl, buildEach_single⟩

end Stencil.Config
