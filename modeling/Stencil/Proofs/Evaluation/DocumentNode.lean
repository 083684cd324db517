import Mathlib
import Stencil.Evaluator
import Stencil.Proofs.Pipe.Correspondence

/-!
Templates over a document and over its node. Main statement: a reference followed by standard pipes leads to results
that correspond, or to the same error.
-/

namespace Stencil.Evaluator

open Template Value Outcome

variable {d v w : Value} {registry : Registry} {key : Key} {h : Handler}

theorem eq_path_of_fromContext (hr : Resolver.fromContext.resolve key = some h) : h = .path := by
  rw [Resolver.resolve_fromContext] at hr
  split at hr
  · exact (Option.some.inj hr).symm
  · cases hr

theorem agree_lookUp (hd : d.IsDocument) (registry : Registry) (key : Key) :
    Agree Corresponds (lookUp ⟨.fromContext, registry⟩ key (.node d)) (lookUp ⟨.fromContext, registry⟩ key d) := by
  rw [lookUp, lookUp]
  cases hr : Resolver.fromContext.resolve key with
  | none => exact .ok .absent
  | some h =>
    obtain rfl := eq_path_of_fromContext hr
    dsimp only [Handler.call]
    cases key.name with
    | text name => exact Path.agree_navigate (.inl ⟨rfl, hd⟩) name
    | scalar s =>
      dsimp only
      split
      · exact Path.agree_navigate (.inl ⟨rfl, hd⟩) ""
      · exact .error

theorem agree_follow (path : Option String) (h : Corresponds v w) : Agree Corresponds (follow path v) (follow path w) := by
  cases path with
  | none => exact .ok h
  | some path => exact Path.agree_navigate (.inr h) path

/-- The value that the pipes of an expression start from. -/
def referent (e : Evaluator) (context : Value) (k : KeyRef) : Result Value := do
  follow k.path (← e.lookUp (← e.keyOf k) context)

theorem evaluate_eq_referent (e : Evaluator) (context : Value) (x : Expression) :
    e.evaluate context x = do
      let v ← applyAll e.registry x.pipes (← e.referent context x.key)
      return v.unwrap := by
  rw [evaluate, referent]
  simp only [bind_assoc]

theorem agree_referent (hd : d.IsDocument) (registry : Registry) (k : KeyRef) :
    Agree Corresponds (referent ⟨.fromContext, registry⟩ (.node d) k) (referent ⟨.fromContext, registry⟩ d k) := by
  refine Agree.bind_same fun key _ => ?_
  exact (agree_lookUp hd registry key).bind fun _ _ h => agree_follow k.path h

/-- No filter among the pipes compares a list or a map, whatever value reaches it. -/
def FiltersLeavesAlong (registry : Registry) : List PipeCall → Value → Prop
  | [], _ => True
  | p :: ps, v =>
    (p.name = "filter" → Pipe.FiltersLeaves (p.args.map Value.text) v) ∧
      ∀ w, p.apply registry v = .ok w → FiltersLeavesAlong registry ps w

theorem agree_apply {p : PipeCall} (hp : (StandardPipe.ofName? p.name).isSome) (h : Corresponds v w)
    (hl : p.name = "filter" → Pipe.FiltersLeaves (p.args.map Value.text) w) :
    Agree Corresponds (p.apply registry v) (p.apply registry w) := by
  obtain ⟨s, hs⟩ := Option.isSome_iff_exists.1 hp
  have hfind : registry.find? p.name = some s.run := by rw [Registry.find?, hs]
  simp only [PipeCall.apply, Registry.apply, hfind]
  refine s.agree_run h fun he => hl ?_
  rw [← StandardPipe.ofName_eq_some_iff.1 hs, he]
  rfl

theorem agree_applyAll {ps : List PipeCall} (hps : ∀ p ∈ ps, (StandardPipe.ofName? p.name).isSome)
    (h : Corresponds v w) (hl : FiltersLeavesAlong registry ps w) :
    Agree Corresponds (applyAll registry ps v) (applyAll registry ps w) := by
  induction ps generalizing v w with
  | nil => exact .ok h
  | cons p ps ih =>
    rw [List.forall_mem_cons] at hps
    rw [applyAll, applyAll]
    exact (agree_apply hps.1 h hl.1).bind_of_eq fun a b _ hb hab => ih hps.2 hab (hl.2 b hb)

/-- A document and its node give results that correspond, for every reference and every row of standard pipes. -/
theorem evaluate_node (registry : Registry) (d : Value) (x : Expression) (hd : d.IsDocument)
    (hpipes : ∀ p ∈ x.pipes, (StandardPipe.ofName? p.name).isSome)
    (hleaves : ∀ v, referent ⟨.fromContext, registry⟩ d x.key = .ok v → FiltersLeavesAlong registry x.pipes v) :
    Agree Corresponds (evaluate ⟨.fromContext, registry⟩ (.node d) x) (evaluate ⟨.fromContext, registry⟩ d x) ∧
      ∀ source t, Template.parse source = .ok t → t.single? = some x →
        Agree Corresponds (eval ⟨.fromContext, registry⟩ source (.node d)) (eval ⟨.fromContext, registry⟩ source d) := by
  have hx : Agree Corresponds (evaluate ⟨.fromContext, registry⟩ (.node d) x) (evaluate ⟨.fromContext, registry⟩ d x) := by
    rw [evaluate_eq_referent, evaluate_eq_referent]
    refine (agree_referent hd registry x.key).bind_of_eq fun v w _ hw hvw => ?_
    refine (agree_applyAll hpipes hvw (hleaves w hw)).bind fun a b hab => ?_
    rw [hab.unwrap_left, hab.unwrap_right]
    exact .ok hab
  refine ⟨hx, fun source t ht hsingle => ?_⟩
  refine Agree.bind_same fun u hu => ?_
  have hut : u = t := by
    simp only [parse, ht, ok_bind] at hu
    split at hu <;> cases hu
    rfl
  rw [hut, execute, execute, hsingle]
  exact hx

/-- Two items, of which the filter keeps the first. -/
def flagged : Value :=
  .map [(.text "xs", .list [.map [(.text "ok", .bool true), (.text "n", .int 1)], .map [(.text "ok", .text "no")]])]

theorem evaluate_node_flagged :
    Agree Corresponds (eval ⟨.fromContext, .empty⟩ "$\x7bxs | filter:ok:true | map:n\x7d" (.node flagged))
        (eval ⟨.fromContext, .empty⟩ "$\x7bxs | filter:ok:true | map:n\x7d" flagged) ∧
      eval ⟨.fromContext, .empty⟩ "$\x7bxs | filter:ok:true | map:n\x7d" flagged = .ok (.list [.int 1]) := by
  refine ⟨?_, by cbv⟩
  refine (evaluate_node .empty flagged ⟨⟨none, "xs", none⟩, [⟨"filter", ["ok", "true"]⟩, ⟨"map", ["n"]⟩],
    "xs | filter:ok:true | map:n"⟩ ?_ (by decide) ?_).2 _ ⟨[.expression _]⟩ (by cbv) rfl
  · have hfirst : (Value.map [(.text "ok", .bool true), (.text "n", .int 1)]).IsDocument :=
      .map (by simp) (by simpa using ⟨.bool true, .int 1⟩)
    have hsecond : (Value.map [(.text "ok", .text "no")]).IsDocument := .map (by simp) (by simpa using .text "no")
    exact .map (by simp) (by simpa using .list (by simpa using ⟨hfirst, hsecond⟩))
  · intro v hv
    have hxs : referent ⟨.fromContext, .empty⟩ flagged ⟨none, "xs", none⟩ =
        .ok (.list [.map [(.text "ok", .bool true), (.text "n", .int 1)], .map [(.text "ok", .text "no")]]) := by
      cbv
    obtain rfl := Except.ok.inj (hxs.symm.trans hv)
    refine ⟨fun _ => ?_, fun w _ => ⟨fun h => absurd h (by decide), fun _ _ => trivial⟩⟩
    intro expected items field _ _ hf hi
    obtain rfl := Option.some.inj hf
    obtain rfl := Option.some.inj hi
    have hfirst : Path.navigateBy (.map [(.text "ok", .bool true), (.text "n", .int 1)]) (.text "ok") =
        .ok (.bool true) := by
      cbv
    have hsecond : Path.navigateBy (.map [(.text "ok", .text "no")]) (.text "ok") = .ok (.text "no") := by
      cbv
    refine ⟨fun _ v hv => ?_, fun _ _ => ⟨fun _ v hv => ?_, fun _ _ => trivial⟩⟩
    · obtain rfl := Except.ok.inj (hfirst.symm.trans hv)
      rfl
    · obtain rfl := Except.ok.inj (hsecond.symm.trans hv)
      rfl

end Stencil.Evaluator
