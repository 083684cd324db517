import Stencil.Proofs.Keys.Update
import Stencil.Proofs.Evaluation.Footprint
import Stencil.Proofs.Pipe.Registration

/-!
Extensions of an evaluator. Main statement: pipes under names that a template does not use, and resolvers to fall back to
where its keys have handlers already, change nothing about the template.
-/

namespace Stencil

open Template Outcome

namespace Evaluator

variable {e f : Evaluator} {t : Template} {source : String} {x : Expression}

/-! ## Evaluators that agree on what a template uses -/

/-- Two evaluators make the same of the keys and the pipes that a template names. -/
structure AgreeOn (t : Template) (e f : Evaluator) : Prop where
  keyOf_eq : ∀ x ∈ t.expressions, f.keyOf x.key = e.keyOf x.key
  resolve_eq : ∀ x ∈ t.expressions, ∀ key, e.keyOf x.key = .ok key → f.resolver.resolve key = e.resolver.resolve key
  find_eq : ∀ name ∈ t.pipeNames, f.registry.find? name = e.registry.find? name

theorem AgreeOn.refl (t : Template) (e : Evaluator) : AgreeOn t e e :=
  ⟨fun _ _ => rfl, fun _ _ _ _ => rfl, fun _ _ => rfl⟩

theorem AgreeOn.trans {g : Evaluator} (h : AgreeOn t e f) (hg : AgreeOn t f g) : AgreeOn t e g where
  keyOf_eq x hx := (hg.keyOf_eq x hx).trans (h.keyOf_eq x hx)
  resolve_eq x hx key hkey := by
    have hkey' : f.keyOf x.key = .ok key := (h.keyOf_eq x hx).trans hkey
    exact (hg.resolve_eq x hx key hkey').trans (h.resolve_eq x hx key hkey)
  find_eq name hname := (hg.find_eq name hname).trans (h.find_eq name hname)

theorem applyAll_congr {r s : Registry} {ps : List PipeCall} (h : ∀ p ∈ ps, s.find? p.name = r.find? p.name)
    (v : Value) : applyAll s ps v = applyAll r ps v := by
  induction ps generalizing v with
  | nil => rfl
  | cons p ps ih =>
    rw [List.forall_mem_cons] at h
    have hp : p.apply s v = p.apply r v := by rw [PipeCall.apply, PipeCall.apply, Registry.apply, Registry.apply, h.1]
    rw [applyAll, applyAll, hp]
    exact congrArg _ (funext fun w => ih h.2 w)

theorem AgreeOn.evaluate_eq (h : AgreeOn t e f) (hx : x ∈ t.expressions) (context : Value) :
    f.evaluate context x = e.evaluate context x := by
  rw [evaluate, evaluate, h.keyOf_eq x hx]
  cases hkey : e.keyOf x.key with
  | error err => rfl
  | ok key =>
    have hpipes (v : Value) : applyAll f.registry x.pipes v = applyAll e.registry x.pipes v :=
      applyAll_congr (fun p hp => h.find_eq p.name (mem_pipeNames hx hp)) v
    have hfound : f.lookUp key context = e.lookUp key context := by
      rw [lookUp, lookUp, h.resolve_eq x hx key hkey]
    simp only [ok_bind, hfound, hpipes]

theorem AgreeOn.parse_eq (h : AgreeOn t e f) (ht : e.parse source = .ok t) : f.parse source = .ok t := by
  rw [parse_eq_ok_iff_known] at ht ⊢
  refine ⟨ht.1, fun name hname => ?_⟩
  rw [Registry.has, h.find_eq name hname]
  exact ht.2 name hname

theorem AgreeOn.eval_eq (h : AgreeOn t e f) (ht : e.parse source = .ok t) (context : Value) :
    f.eval source context = e.eval source context := by
  rw [eval, eval, h.parse_eq ht, ht, ok_bind, ok_bind]
  exact execute_congr fun x hx => h.evaluate_eq hx context

/-! ## Extensions -/

/-- One extension that leaves the names of a template alone: a run that registers pipes under other names, or a resolver
to fall back to when all keys of the template have handlers. -/
inductive Extends (t : Template) (e : Evaluator) : Evaluator → Prop
  | pipes {log : List Registration} {registry : Registry} :
      Registry.Runs e.registry log registry → (∀ g ∈ log, g.name ∉ t.pipeNames) → Extends t e ⟨e.resolver, registry⟩
  | delegate {w grown : Workshop} {other resolver : Resolver} :
      w.addDelegate e.resolver other = .ok (grown, resolver) →
      (∀ x ∈ t.expressions, ∀ key, e.keyOf x.key = .ok key → (e.resolver.resolve key).isSome) →
      Extends t e ⟨resolver, e.registry⟩

theorem Extends.wellFormed (h : Extends t e f) (hr : e.registry.WellFormed) : f.registry.WellFormed := by
  cases h with
  | pipes hrun _ => exact hrun.wellFormed hr
  | delegate _ _ => exact hr

theorem Extends.agreeOn (h : Extends t e f) (hr : e.registry.WellFormed) : AgreeOn t e f := by
  cases h with
  | pipes hrun hlog =>
    refine ⟨fun _ _ => rfl, fun _ _ _ _ => rfl, fun name hname => hrun.find_eq hr fun g hg he => ?_⟩
    exact hlog g hg (he ▸ hname)
  | delegate hmade hresolves =>
    refine ⟨fun x _ => ?_, fun x hx key hkey => ?_, fun _ _ => rfl⟩
    · rw [keyOf, keyOf, Workshop.defaultNamespace_of_addDelegate hmade]
    · obtain ⟨handler, hhandler⟩ := Option.isSome_iff_exists.1 (hresolves x hx key hkey)
      rw [Workshop.resolve_of_addDelegate hmade, hhandler, Option.some_or]

theorem agreeOn_of_extends (h : Relation.ReflTransGen (Extends t) e f) (hr : e.registry.WellFormed) :
    AgreeOn t e f ∧ f.registry.WellFormed := by
  induction h with
  | refl => exact ⟨.refl t e, hr⟩
  | tail _ hstep ih => exact ⟨ih.1.trans (hstep.agreeOn ih.2), hstep.wellFormed ih.2⟩

/-- Extensions that leave the names of a template alone change nothing about it: it is still read, and has the same
outcome in every context. -/
theorem eval_of_extends {entries : List (String × Pipe)} (hmade : Registry.ofExtensions entries = .ok e.registry)
    (ht : e.parse source = .ok t) (h : Relation.ReflTransGen (Extends t) e f) :
    f.parse source = .ok t ∧ ∀ context, f.eval source context = e.eval source context := by
  have hagree := (agreeOn_of_extends h (Registry.wellFormed_of_ofExtensions hmade)).1
  exact ⟨hagree.parse_eq ht, hagree.eval_eq ht⟩

def counting : Template := ⟨[.expression ⟨⟨none, "a", none⟩, [⟨"size", []⟩], "a|size"⟩]⟩

/-- Two more pipes, one of which sees absence, and the mathematical constants to fall back to. -/
theorem eval_of_extends_numbers :
    ∃ f, Relation.ReflTransGen (Extends counting) ⟨.fromContext, .empty⟩ f ∧ f.registry.names = ["see", "x.see"] ∧
      (f.resolver.resolve (.ofText "Math" "PI")).isSome ∧
      ∀ context, f.eval "$\x7ba|size\x7d" context = eval ⟨.fromContext, .empty⟩ "$\x7ba|size\x7d" context := by
  have ht : parse ⟨.fromContext, .empty⟩ "$\x7ba|size\x7d" = .ok counting := by cbv
  have hmade : Registry.ofExtensions [] = .ok .empty := rfl
  have hpipe : Registry.empty.withPipe "see" Registry.seeing false = .ok ⟨[("see", Registry.seeing)]⟩ := rfl
  have hrun : Registry.Runs .empty [⟨"x.see", Registry.seeing, true⟩, ⟨"see", Registry.seeing, false⟩]
      ⟨[("see", Registry.seeing), ("x.see", Registry.seeing.passingAbsence)]⟩ :=
    .withSet ⟨"x", [("see", Registry.seeing)]⟩ (.withPipe (g := ⟨"see", Registry.seeing, false⟩) (.refl _) hpipe)
  obtain ⟨resolver, -, hcall⟩ :=
    Workshop.start_layered.run (c := .addDelegate .fromContext .numbers) fun r hr => by
      rcases (by simpa [Workshop.Call.operands] using hr : r = _ ∨ r = _) with rfl | rfl <;> simp [Workshop.start]
  have hadd : Workshop.start.addDelegate .fromContext .numbers = .ok (Workshop.start.grown resolver, resolver) := hcall
  have hextends : Relation.ReflTransGen (Extends counting) ⟨.fromContext, .empty⟩
      ⟨resolver, ⟨[("see", Registry.seeing), ("x.see", Registry.seeing.passingAbsence)]⟩⟩ := by
    refine .tail (.single (.pipes hrun (by simp [counting, pipeNames, expressions]))) (.delegate hadd ?_)
    intro x hx key hkey
    obtain rfl : x = _ := by simpa [counting, expressions] using hx
    cases hkey
    rfl
  refine ⟨_, hextends, rfl, ?_, (eval_of_extends hmade ht hextends).2⟩
  rw [Workshop.resolve_of_addDelegate hadd]
  rfl

end Evaluator

end Stencil
