import Stencil.Proofs.Template.Concatenation
import Stencil.Proofs.Value.Correspondence

/-!
What the evaluation of a template reads. Main statement: a template that takes names from its context makes the same of
two maps that give the names it mentions the same values.
-/

namespace Stencil

open Template Outcome

/-! ## Expressions with equal values -/

namespace Evaluator

variable {e f : Evaluator} {c d : Value} {nodes : List Node} {t : Template}

theorem render_congr (h : ∀ x, .expression x ∈ nodes → e.evaluate c x = f.evaluate d x) :
    e.render c nodes = f.render d nodes := by
  induction nodes with
  | nil => rfl
  | cons node nodes ih =>
    have hnode : e.renderNode c node = f.renderNode d node := by
      cases node with
      | literal text => rfl
      | expression x => rw [renderNode, renderNode, h x (by simp)]
    rw [render, render, hnode, ih fun x hx => h x (by simp [hx])]

theorem execute_congr (h : ∀ x ∈ t.expressions, e.evaluate c x = f.evaluate d x) : e.execute t c = f.execute t d := by
  rw [execute, execute]
  cases hx : t.single? with
  | some x =>
    refine h x ?_
    rw [mem_expressions, nodes_of_single hx]
    simp
  | none =>
    have hrender : e.render c t.nodes = f.render d t.nodes := render_congr fun x hx => h x (mem_expressions.2 hx)
    dsimp only
    rw [hrender]

end Evaluator

/-! ## Names in templates -/

theorem Path.split_name {name : String} (hne : name ≠ "") (hdot : '.' ∉ name.toList) : Path.split name = [name] := by
  rw [Path.split, if_neg hne, Text.splitChar_of_notMem hdot]
  simp

theorem Template.split_name_of_parse {source : String} {t : Template} (ht : Template.parse source = .ok t)
    {x : Expression} (hx : x ∈ t.expressions) : Path.split x.key.name = [x.key.name] := by
  have hwritten : Written source.toList t.nodes := parse_eq_ok_iff.1 ht
  obtain ⟨body, -, -, -, first, rest, -, hkey, -⟩ := hwritten.exists_body (mem_expressions.1 hx)
  obtain ⟨cs, hname⟩ := hkey.exists_readsName
  exact Path.split_name hname.name_ne_empty hname.dot_notMem

namespace Evaluator

variable {registry : Registry} {c d : Value} {x : Expression}

theorem keyOf_fromContext (registry : Registry) (k : KeyRef) :
    keyOf ⟨.fromContext, registry⟩ k = .ok (.ofText (k.ns.getD Key.defaultNamespace) k.name) := by
  obtain ⟨ns, name, path⟩ := k
  cases ns <;> rfl

theorem lookUp_fromContext (registry : Registry) (ns name : String) (c : Value) :
    lookUp ⟨.fromContext, registry⟩ (.ofText ns name) c =
      if ns = Key.defaultNamespace then Path.navigate c name else .ok .absent := by
  rw [lookUp, Resolver.resolve_fromContext]
  by_cases hns : ns = Key.defaultNamespace
  · rw [if_pos hns, if_pos (by rw [Key.ofText, hns])]
    rfl
  · have hlabel : (Key.ofText ns name).ns ≠ .text Key.defaultNamespace := fun he => hns (Label.text.inj he)
    rw [if_neg hns, if_neg hlabel]

theorem evaluate_of_step_eq (hname : Path.split x.key.name = [x.key.name])
    (h : x.key.ns = none ∨ x.key.ns = some Key.defaultNamespace → Path.step c x.key.name = Path.step d x.key.name) :
    evaluate ⟨.fromContext, registry⟩ c x = evaluate ⟨.fromContext, registry⟩ d x := by
  have hfound :
      lookUp ⟨.fromContext, registry⟩ (.ofText (x.key.ns.getD Key.defaultNamespace) x.key.name) c =
        lookUp ⟨.fromContext, registry⟩ (.ofText (x.key.ns.getD Key.defaultNamespace) x.key.name) d := by
    rw [lookUp_fromContext, lookUp_fromContext]
    split
    · next hns =>
      have hreads : x.key.ns = none ∨ x.key.ns = some Key.defaultNamespace := by
        cases hk : x.key.ns with
        | none => exact .inl rfl
        | some ns =>
          rw [hk, Option.getD_some] at hns
          exact .inr (congrArg some hns)
      rw [Path.navigate, Path.navigate, hname, Path.walk_cons, Path.walk_cons, h hreads]
    · rfl
  rw [evaluate, evaluate, keyOf_fromContext, ok_bind, ok_bind, hfound]

/-- A template looks at those entries of a map whose names it mentions, and at no others. -/
theorem eval_eq_of_same_names (registry : Registry) {source : String} {t : Template}
    (ht : Template.parse source = .ok t) {entries others : List (Value × Value)}
    (h : ∀ x ∈ t.expressions, x.key.ns = none ∨ x.key.ns = some Key.defaultNamespace →
      (Value.lookup? entries x.key.name).getD .absent = (Value.lookup? others x.key.name).getD .absent) :
    eval ⟨.fromContext, registry⟩ source (.map entries) = eval ⟨.fromContext, registry⟩ source (.map others) := by
  rw [eval, eval]
  cases hparse : parse ⟨.fromContext, registry⟩ source with
  | error err => rfl
  | ok u =>
    obtain rfl : t = u := Except.ok.inj (ht.symm.trans ((parse_eq_ok_iff_known _).1 hparse).1)
    refine execute_congr fun x hx => evaluate_of_step_eq (split_name_of_parse ht hx) fun hreads => ?_
    exact congrArg Except.ok (h x hx hreads)

/-- The maps differ in a name that stands in another namespace, and in their order. -/
theorem eval_eq_of_same_names_sizes :
    eval ⟨.fromContext, .empty⟩ "$\x7ba.x|size\x7d-$\x7bMath:b\x7d"
        (.map [(.text "a", .map [(.text "x", .list [.int 1, .int 2])]), (.text "b", .int 1)]) =
      eval ⟨.fromContext, .empty⟩ "$\x7ba.x|size\x7d-$\x7bMath:b\x7d"
        (.map [(.text "b", .text "other"), (.text "a", .map [(.text "x", .list [.int 1, .int 2])])]) := by
  have ht : Template.parse "$\x7ba.x|size\x7d-$\x7bMath:b\x7d" = .ok ⟨[
      .expression ⟨⟨none, "a", some "x"⟩, [⟨"size", []⟩], "a.x|size"⟩, .literal "-",
      .expression ⟨⟨some "Math", "b", none⟩, [], "Math:b"⟩]⟩ := by cbv
  refine eval_eq_of_same_names .empty ht fun x hx hreads => ?_
  rcases (by simpa [expressions] using hx : x = _ ∨ x = _) with rfl | rfl
  · rfl
  · simp [Key.defaultNamespace] at hreads

end Evaluator

end Stencil
