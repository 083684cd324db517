import Mathlib
import Stencil.Evaluator
import Stencil.Proofs.Template.Written

/-!
Templates one after the other. Main statement: as long as no opening mark arises at the border, the text of two
templates together is the text of the first and then the text of the second.
-/

namespace Stencil

namespace Template

variable {a b : List Char} {xs ys : List Node}

/-- The nodes of two texts together: a literal at the end of the first takes in one at the head of the second. -/
def joinNodes : List Node → List Node → List Node
  | [], ys => ys
  | [.literal s], ys => glue s.toList ys
  | x :: xs, ys => x :: joinNodes xs ys

theorem joinNodes_expression (e : Expression) (xs ys : List Node) :
    joinNodes (.expression e :: xs) ys = .expression e :: joinNodes xs ys := by
  cases xs <;> rfl

theorem joinNodes_literalNodes_append (text : List Char) (e : Expression) (xs ys : List Node) :
    joinNodes (literalNodes text ++ .expression e :: xs) ys =
      literalNodes text ++ .expression e :: joinNodes xs ys := by
  by_cases ht : text = []
  · simp [literalNodes, ht, joinNodes_expression]
  · simp [literalNodes, ht, joinNodes]

theorem Written.append (ha : Written a xs) (hb : Written b ys) (hj : Joins a b) :
    Written (a ++ b) (joinNodes xs ys) := by
  induction ha with
  | @plain text ho =>
    by_cases ht : text = []
    · subst ht
      exact hb
    · have hw := hb.prepend ho hj
      simpa [literalNodes, ht, joinNodes, textOf] using hw
  | @expression text body after e nodes ht hclose hopen he _ ih =>
    have hafter : Joins after b := by
      cases after with
      | nil => simp [Joins]
      | cons c cs => simpa [Joins, List.getLast?_append, List.getLast?_cons] using hj
    have hw := Written.expression ht hclose hopen he (ih hafter)
    rw [joinNodes_literalNodes_append]
    simpa using hw

theorem nodes_of_single {t : Template} {x : Expression} (h : t.single? = some x) : t.nodes = [.expression x] := by
  rw [single?] at h
  split at h
  · next hnodes =>
    cases h
    exact hnodes
  · cases h

theorem mem_expressions {t : Template} {x : Expression} : x ∈ t.expressions ↔ .expression x ∈ t.nodes := by
  rw [expressions, List.mem_filterMap]
  constructor
  · rintro ⟨node, hnode, hx⟩
    cases node with
    | literal text => cases hx
    | expression y =>
      cases hx
      exact hnode
  · exact fun hx => ⟨_, hx, rfl⟩

theorem mem_pipeNames {t : Template} {x : Expression} {p : PipeCall} (hx : x ∈ t.expressions) (hp : p ∈ x.pipes) :
    p.name ∈ t.pipeNames := List.mem_flatMap.2 ⟨x, hx, List.mem_map_of_mem hp⟩

theorem pipeNames_append (xs ys : List Node) :
    (Template.mk (xs ++ ys)).pipeNames = (Template.mk xs).pipeNames ++ (Template.mk ys).pipeNames := by
  simp [pipeNames, expressions]

theorem pipeNames_literalNodes (text : List Char) : (Template.mk (literalNodes text)).pipeNames = [] := by
  by_cases ht : text = [] <;> simp [literalNodes, ht, pipeNames, expressions]

theorem pipeNames_glue (text : List Char) (ys : List Node) :
    (Template.mk (glue text ys)).pipeNames = (Template.mk ys).pipeNames := by
  cases ys with
  | nil =>
    rw [glue, List.append_nil, pipeNames_literalNodes]
    · rfl
    · simp
  | cons y ys =>
    cases y with
    | literal s =>
      rw [glue, pipeNames_append, pipeNames_literalNodes]
      simp [pipeNames, expressions]
    | expression x =>
      rw [glue, pipeNames_append, pipeNames_literalNodes, List.nil_append]
      simp

theorem pipeNames_joinNodes (xs ys : List Node) :
    (Template.mk (joinNodes xs ys)).pipeNames = (Template.mk xs).pipeNames ++ (Template.mk ys).pipeNames := by
  fun_induction joinNodes xs ys with
  | case1 ys => simp [pipeNames, expressions]
  | case2 s ys =>
    rw [pipeNames_glue]
    simp [pipeNames, expressions]
  | case3 x xs ys _ ih =>
    have hcons (ns : List Node) := pipeNames_append [x] ns
    simp only [List.singleton_append] at hcons
    rw [hcons (joinNodes xs ys), hcons xs, ih, List.append_assoc]

end Template

namespace Evaluator

open Template

variable (e : Evaluator) (context : Value)

theorem render_append (xs ys : List Node) :
    e.render context (xs ++ ys) = do
      let s ← e.render context xs
      let t ← e.render context ys
      return s ++ t := by
  induction xs with
  | nil => cases h : e.render context ys <;> simp [render, h]
  | cons x xs ih =>
    rw [List.cons_append, render, render, ih]
    cases e.renderNode context x <;> cases e.render context xs <;> cases e.render context ys <;>
      simp [String.append_assoc]

theorem render_literalNodes (text : List Char) : e.render context (literalNodes text) = .ok (textOf text) := by
  by_cases ht : text = []
  · simp [literalNodes, ht, render, textOf]
  · simp [literalNodes, ht, render, renderNode]

theorem render_glue (text : List Char) (ys : List Node) :
    e.render context (glue text ys) = do return textOf text ++ (← e.render context ys) := by
  cases ys with
  | nil => simp [glue, render_literalNodes, render]
  | cons y ys =>
    cases y with
    | literal s =>
      rw [glue, render_append, render_literalNodes, render, renderNode]
      cases e.render context ys <;> simp [textOf, String.ofList_append, String.append_assoc]
    | expression x =>
      rw [glue, render_append, render_literalNodes]
      · rfl
      · simp

theorem render_joinNodes (xs ys : List Node) :
    e.render context (joinNodes xs ys) = do
      let s ← e.render context xs
      let t ← e.render context ys
      return s ++ t := by
  fun_induction joinNodes xs ys with
  | case1 ys => cases e.render context ys <;> simp [render]
  | case2 s ys => simp [render_glue, render, renderNode, textOf]
  | case3 x xs ys _ ih =>
    rw [render, render, ih]
    cases e.renderNode context x <;> cases e.render context xs <;> cases e.render context ys <;>
      simp [String.append_assoc]

/-- The value of a template has the text that its nodes render, whether or not it is one expression alone. -/
theorem toText_execute (t : Template) : (do (← e.execute t context).toText) = e.render context t.nodes := by
  rw [execute]
  split
  · next x hx =>
    rw [nodes_of_single hx, render, renderNode, render]
    cases hv : e.evaluate context x with
    | error err => simp
    | ok v => cases ht : v.toText <;> simp [ht]
  · cases e.render context t.nodes <;> simp [Value.toText]

theorem parse_eq_ok_iff_known {source : String} {t : Template} :
    e.parse source = .ok t ↔ Template.parse source = .ok t ∧ ∀ name ∈ t.pipeNames, e.registry.has name := by
  rw [Evaluator.parse]
  cases hp : Template.parse source with
  | error err => simp
  | ok u =>
    rw [Outcome.ok_bind]
    split
    · next name hn =>
      refine ⟨fun h => (by cases h), ?_⟩
      rintro ⟨hu, hall⟩
      cases hu
      have := hall name (List.mem_of_find?_eq_some hn)
      have := List.find?_some hn
      simp_all
    · next hn =>
      constructor
      · intro h
        cases h
        exact ⟨rfl, by simpa using hn⟩
      · exact fun h => h.1

theorem eval_toText_iff {source s : String} :
    (∃ v, e.eval source context = .ok v ∧ v.toText = .ok s) ↔
      ∃ t, e.parse source = .ok t ∧ e.render context t.nodes = .ok s := by
  simp only [← toText_execute, eval, Outcome.bind_eq_ok_iff]
  constructor
  · rintro ⟨v, ⟨t, ht, hv⟩, hs⟩
    exact ⟨t, ht, v, hv, hs⟩
  · rintro ⟨t, ht, v, hv, hs⟩
    exact ⟨v, ⟨t, ht, hv⟩, hs⟩

theorem parse_append {a b : String} {x y : Template} (hj : Joins a.toList b.toList) (hx : e.parse a = .ok x)
    (hy : e.parse b = .ok y) : e.parse (a ++ b) = .ok ⟨joinNodes x.nodes y.nodes⟩ := by
  rw [parse_eq_ok_iff_known] at hx hy ⊢
  constructor
  · rw [parse_eq_ok_iff, String.toList_append]
    exact (parse_eq_ok_iff.1 hx.1).append (parse_eq_ok_iff.1 hy.1) hj
  · rw [pipeNames_joinNodes, List.forall_mem_append]
    exact ⟨hx.2, hy.2⟩

/-- Rendering takes texts one after the other to texts one after the other, and a plain text to itself. -/
theorem eval_append :
    (∀ a b v w s t, ¬ (a.toList.getLast? = some '$' ∧ b.toList.head? = some '{') →
      e.eval a context = .ok v → v.toText = .ok s → e.eval b context = .ok w → w.toText = .ok t →
      (∃ x, e.parse (a ++ b) = .ok x) ∧ ∃ u, e.eval (a ++ b) context = .ok u ∧ u.toText = .ok (s ++ t)) ∧
      ∀ a : String, ¬ openMark <:+: a.toList → e.eval a context = .ok (.text a) := by
  constructor
  · intro a b v w s t hj hv hs hw ht
    obtain ⟨x, hx, hrx⟩ := (eval_toText_iff e context).1 ⟨v, hv, hs⟩
    obtain ⟨y, hy, hry⟩ := (eval_toText_iff e context).1 ⟨w, hw, ht⟩
    have hxy := parse_append e hj hx hy
    have hr : e.render context (joinNodes x.nodes y.nodes) = .ok (s ++ t) := by
      simp [render_joinNodes, hrx, hry]
    exact ⟨⟨_, hxy⟩, (eval_toText_iff e context).2 ⟨_, hxy, hr⟩⟩
  · intro a ha
    have hp : e.parse a = .ok ⟨literalNodes a.toList⟩ := by
      rw [parse_eq_ok_iff_known, parse_eq_ok_iff, pipeNames_literalNodes]
      exact ⟨.plain ha, by simp⟩
    have hsingle : (Template.mk (literalNodes a.toList)).single? = none := by
      by_cases hn : a.toList = [] <;> simp [literalNodes, hn, single?]
    simp [eval, hp, execute, hsingle, render_literalNodes, textOf]

theorem eval_dollar_append : ∃ u,
    eval ⟨.fromContext, .empty⟩ ("$" ++ "$\x7ba\x7d") (.map [(.text "a", .int 3)]) = .ok u ∧ u.toText = .ok ("$" ++ "3") :=
  ((eval_append _ _).1 "$" "$\x7ba\x7d" (.text "$") (.int 3) "$" "3" (by decide) (by cbv) (by cbv) (by cbv) (by cbv)).2

end Evaluator

end Stencil
